import LotusManage.Lib.JsonTokens
import LotusManage.Lib.JsonTrees

/-!
# The JSON decoder

`json.loads`: the tokens of a text move a stack of open containers.  A container that would be
nested deeper than the interpreter admits is a `RecursionError`, an integer of too many digits a
`ValueError`, and any other fault a `JSONDecodeError`.

Every value is met when it is complete, with the number of containers that are open around it, an
object itself included.  A hook runs on what is met, in that order, and its first exception is that
of the call (`loadsWith`).

* `step_meets`: what one token completes.
* `scan_meets`: what is met in a text that is read are the values of its tree, in order.
* `toDict`: the value that Python has of a tree, with one member for every key.
-/

namespace LotusManage.JsonDecoder

/-- A scalar. -/
inductive Atom where
  | null
  | bool (value : Bool)
  | int (value : Int)
  | float (value : ℚ)
  /-- A number beyond the doubles. -/
  | overflow (negative : Bool)
  | constant (constant : Constant)
  | text (codes : CodePoints)
  deriving DecidableEq

/-- A value as it is written: a dict keeps every member. -/
abbrev Value := JsonTree CodePoints Atom

/-- Why a text is not read. -/
inductive DecodeError where
  | malformed
  | digits
  | recursion
  deriving DecidableEq

/-- `sys.get_int_max_str_digits()` -/
def maxStrDigits : Nat := 4300

/-- The scalar that a number is. -/
def NumberText.atom (number : NumberText) : Except DecodeError Atom :=
  if number.isInt then
    if maxStrDigits < number.whole.length then .error .digits else .ok (.int number.intValue)
  else
    match double number.value with
    | some value => .ok (.float value)
    | none => .ok (.overflow number.negative)

/-- The scalar that a token is: nothing for punctuation. -/
def Token.atom : Token → Except DecodeError Atom
  | .null => .ok .null
  | .bool value => .ok (.bool value)
  | .text codes => .ok (.text codes)
  | .number literal => literal.atom
  | .constant name => .ok (.constant name)
  | _ => .error .malformed

/-! ## What is met -/

/-- A complete value, scalar or object. -/
inductive Met where
  | scalar (depth : Nat) (atom : Atom)
  | object (depth : Nat) (pairs : List (CodePoints × Value))

mutual

/-- The values of a tree in the order in which they are complete. -/
def meets (depth : Nat) : Value → List Met
  | .scalar atom => [.scalar depth atom]
  | .list items => itemMeets (depth + 1) items
  | .dict pairs => pairMeets (depth + 1) pairs ++ [.object (depth + 1) pairs]

def itemMeets (depth : Nat) : List Value → List Met
  | [] => []
  | item :: items => meets depth item ++ itemMeets depth items

def pairMeets (depth : Nat) : List (CodePoints × Value) → List Met
  | [] => []
  | (_, value) :: pairs => meets depth value ++ pairMeets depth pairs

end

theorem itemMeets_append (depth : Nat) (items items' : List Value) :
    itemMeets depth (items ++ items') = itemMeets depth items ++ itemMeets depth items' := by
  induction items with
  | nil => rfl
  | cons item items ih => simp [itemMeets, ih]

theorem pairMeets_append (depth : Nat) (pairs pairs' : List (CodePoints × Value)) :
    pairMeets depth (pairs ++ pairs') = pairMeets depth pairs ++ pairMeets depth pairs' := by
  induction pairs with
  | nil => rfl
  | cons pair pairs ih => simp [pairMeets, ih]

/-! ## The machine -/

/-- A container that waits for a value: an array behind its items, or an object behind a key. -/
inductive Frame where
  | item (items : List Value)
  | member (pairs : List (CodePoints × Value)) (key : CodePoints)

/-- Where the decoder stands, inside of the open containers. -/
inductive Machine where
  /-- Before a value. -/
  | value (stack : List Frame)
  /-- Behind the bracket of an array. -/
  | firstItem (stack : List Frame)
  /-- Behind the brace of an object. -/
  | firstKey (stack : List Frame)
  /-- Behind a comma in an object. -/
  | nextKey (pairs : List (CodePoints × Value)) (stack : List Frame)
  | afterKey (pairs : List (CodePoints × Value)) (key : CodePoints) (stack : List Frame)
  | afterItem (items : List Value) (stack : List Frame)
  | afterMember (pairs : List (CodePoints × Value)) (stack : List Frame)
  | finished (value : Value)

/-- A complete value goes to the container that waits for it. -/
def fill (value : Value) : List Frame → Machine
  | [] => .finished value
  | .item items :: stack => .afterItem (items ++ [value]) stack
  | .member pairs key :: stack => .afterMember (pairs ++ [(key, value)]) stack

/-- The first token of a value, where `limit` containers may be open. -/
def startValue (limit : Nat) (stack : List Frame) (token : Token) :
    Except DecodeError (Machine × List Met) :=
  match token with
  | .openObject =>
    if stack.length < limit then .ok (.firstKey stack, []) else .error .recursion
  | .openArray =>
    if stack.length < limit then .ok (.firstItem stack, []) else .error .recursion
  | token =>
    match token.atom with
    | .error error => .error error
    | .ok atom => .ok (fill (.scalar atom) stack, [.scalar stack.length atom])

/-- One token. -/
def step (limit : Nat) : Machine → Token → Except DecodeError (Machine × List Met)
  | .value stack, token => startValue limit stack token
  | .firstItem stack, .closeArray => .ok (fill (.list []) stack, [])
  | .firstItem stack, token => startValue limit (.item [] :: stack) token
  | .firstKey stack, .closeObject =>
    .ok (fill (.dict []) stack, [.object (stack.length + 1) []])
  | .firstKey stack, .text key => .ok (.afterKey [] key stack, [])
  | .nextKey pairs stack, .text key => .ok (.afterKey pairs key stack, [])
  | .afterKey pairs key stack, .colon => .ok (.value (.member pairs key :: stack), [])
  | .afterItem items stack, .comma => .ok (.value (.item items :: stack), [])
  | .afterItem items stack, .closeArray => .ok (fill (.list items) stack, [])
  | .afterMember pairs stack, .comma => .ok (.nextKey pairs stack, [])
  | .afterMember pairs stack, .closeObject =>
    .ok (fill (.dict pairs) stack, [.object (stack.length + 1) pairs])
  | _, _ => .error .malformed

/-- What is met in the tokens, and the value that they are. -/
def runTokens (limit : Nat) : Machine → List Token → List Met × Except DecodeError Value
  | .finished value, [] => ([], .ok value)
  | _, [] => ([], .error .malformed)
  | machine, token :: tokens =>
    match step limit machine token with
    | .error error => ([], .error error)
    | .ok (next, met) =>
      let rest := runTokens limit next tokens
      (met ++ rest.1, rest.2)

/-- `json.loads(text)` without hooks, with what it meets on the way. -/
def scan (limit : Nat) (text : List Char) : List Met × Except DecodeError Value :=
  runTokens limit (.value []) (lex text)

/-- `json.loads(text)` -/
def loads (limit : Nat) (text : List Char) : Except DecodeError Value := (scan limit text).2

/-- `json.loads(text)` with a hook on what is met, and the exception of a text that is not read. -/
def loadsWith {σ ε : Type} (limit : Nat) (hook : σ → Met → Except ε σ) (refuse : DecodeError → ε)
    (state : σ) (text : List Char) : Except ε (Value × σ) :=
  match (scan limit text).1.foldlM hook state with
  | .error error => .error error
  | .ok state =>
    match (scan limit text).2 with
    | .error error => .error (refuse error)
    | .ok value => .ok (value, state)

/-! ## What a run meets -/

/-- What was met in the open containers. -/
def openMeets : List Frame → List Met
  | [] => []
  | .item items :: stack => openMeets stack ++ itemMeets (stack.length + 1) items
  | .member pairs _ :: stack => openMeets stack ++ pairMeets (stack.length + 1) pairs

/-- What was met on the way to a machine. -/
def Machine.met : Machine → List Met
  | .value stack => openMeets stack
  | .firstItem stack => openMeets stack
  | .firstKey stack => openMeets stack
  | .nextKey pairs stack => openMeets stack ++ pairMeets (stack.length + 1) pairs
  | .afterKey pairs _ stack => openMeets stack ++ pairMeets (stack.length + 1) pairs
  | .afterItem items stack => openMeets stack ++ itemMeets (stack.length + 1) items
  | .afterMember pairs stack => openMeets stack ++ pairMeets (stack.length + 1) pairs
  | .finished result => meets 0 result

theorem fill_meets (value : Value) (stack : List Frame) :
    (fill value stack).met = openMeets stack ++ meets stack.length value := by
  match stack with
  | [] => rfl
  | .item items :: stack =>
    show openMeets stack ++ itemMeets (stack.length + 1) (items ++ [value]) = _
    rw [itemMeets_append, ← List.append_assoc]
    simp [openMeets, itemMeets]
  | .member pairs key :: stack =>
    show openMeets stack ++ pairMeets (stack.length + 1) (pairs ++ [(key, value)]) = _
    rw [pairMeets_append, ← List.append_assoc]
    simp [openMeets, pairMeets]

theorem startValue_meets {limit : Nat} {stack : List Frame} {token : Token} {next : Machine}
    {met : List Met} (h : startValue limit stack token = .ok (next, met)) :
    next.met = openMeets stack ++ met := by
  unfold startValue at h
  split at h
  · split at h
    · cases h
      exact (List.append_nil _).symm
    · cases h
  · split at h
    · cases h
      exact (List.append_nil _).symm
    · cases h
  · split at h
    · cases h
    · cases h
      exact fill_meets _ _

/-- One token adds what it completes. -/
theorem step_meets {limit : Nat} {machine next : Machine} {token : Token} {met : List Met}
    (h : step limit machine token = .ok (next, met)) : next.met = machine.met ++ met := by
  unfold step at h
  split at h
  · exact startValue_meets h
  · cases h
    rw [fill_meets]
    rfl
  · rw [startValue_meets h]
    simp [openMeets, Machine.met, itemMeets]
  · cases h
    rw [fill_meets]
    rfl
  · cases h
    simp [Machine.met, pairMeets]
  · cases h
    exact (List.append_nil _).symm
  · cases h
    exact (List.append_nil _).symm
  · cases h
    exact (List.append_nil _).symm
  · cases h
    rw [fill_meets, List.append_nil]
    rfl
  · cases h
    exact (List.append_nil _).symm
  · cases h
    rw [fill_meets, Machine.met, List.append_assoc]
    rfl
  · cases h

theorem runTokens_meets {limit : Nat} {machine : Machine} {tokens : List Token} {value : Value}
    (h : (runTokens limit machine tokens).2 = .ok value) :
    machine.met ++ (runTokens limit machine tokens).1 = meets 0 value := by
  induction tokens generalizing machine with
  | nil =>
    unfold runTokens at h ⊢
    split at h
    · cases h
      exact List.append_nil _
    · cases h
    · rename_i heq
      cases heq
  | cons token tokens ih =>
    have hstep : runTokens limit machine (token :: tokens) =
        match step limit machine token with
        | .error error => ([], .error error)
        | .ok (next, met) =>
          (met ++ (runTokens limit next tokens).1, (runTokens limit next tokens).2) := by
      cases machine <;> rfl
    rw [hstep] at h ⊢
    cases hresult : step limit machine token with
    | error error =>
      rw [hresult] at h
      cases h
    | ok result =>
      obtain ⟨next, met⟩ := result
      rw [hresult] at h
      show machine.met ++ (met ++ (runTokens limit next tokens).1) = _
      rw [← List.append_assoc, ← step_meets hresult]
      exact ih h

/-- What is met in a text that is read are the values of its tree. -/
theorem scan_meets {limit : Nat} {text : List Char} {value : Value}
    (h : loads limit text = .ok value) : (scan limit text).1 = meets 0 value :=
  runTokens_meets h

/-! ## The value in Python -/

/-- `dict(pairs)`: a key stands at its first place with its last value. -/
def dictOf (pairs : List (CodePoints × Value)) : List (CodePoints × Value) :=
  pairs.foldl (fun members pair => Dict.setItems pair.1 pair.2 members) []

mutual

/-- The value of a tree. -/
def toDict : Value → Value
  | .scalar atom => .scalar atom
  | .list items => .list (toDictItems items)
  | .dict pairs => .dict (dictOf (toDictPairs pairs))

def toDictItems : List Value → List Value
  | [] => []
  | item :: items => toDict item :: toDictItems items

def toDictPairs : List (CodePoints × Value) → List (CodePoints × Value)
  | [] => []
  | (key, value) :: pairs => (key, toDict value) :: toDictPairs pairs

end

end LotusManage.JsonDecoder
