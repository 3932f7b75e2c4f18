import Mathlib.Data.List.Induction

/-!
# Runs of a state machine

A machine is a step function `σ → α → σ`; an interleaving of the calls of any number of clients is the
list of the calls in the order in which they take the lock.  `run` is the state after such a list, and
`Along` says that a condition on a state and the call made in it holds at every call of the list.

`run_invariant` is the one induction: a property that every step keeps, when the condition holds at it,
holds after the whole list.  `run_history` is the form for a property that also speaks of the calls
made so far, as one about a clock does.

A computation that is not a list of calls, such as a loop inside a loop, is described by the states
that it passes through: `Passes` has a step between each of them and the next.

A machine may return a value with each call: `outputs` are the values of a run, and `agree` compares
two machines under a relation of their states.
-/

namespace LotusManage.Runs

variable {σ α : Type}

/-- The state after the calls of a list, first to last. -/
def run (step : σ → α → σ) (s : σ) (calls : List α) : σ := calls.foldl step s

/-- The condition holds at every call, in the state in which the call is made. -/
def Along (step : σ → α → σ) (cond : σ → α → Prop) : σ → List α → Prop
  | _, [] => True
  | s, a :: calls => cond s a ∧ Along step cond (step s a) calls

instance Along.decidable (step : σ → α → σ) (cond : σ → α → Prop)
    [∀ s a, Decidable (cond s a)] : ∀ (s : σ) (calls : List α), Decidable (Along step cond s calls)
  | _, [] => isTrue trivial
  | s, a :: calls =>
    have := Along.decidable step cond (step s a) calls
    inferInstanceAs (Decidable (cond s a ∧ Along step cond (step s a) calls))

variable {step : σ → α → σ} {cond : σ → α → Prop} {calls : List α} {s : σ}

@[simp] theorem run_nil (step : σ → α → σ) (s : σ) : run step s [] = s := rfl

@[simp] theorem run_cons (step : σ → α → σ) (s : σ) (a : α) (calls : List α) :
    run step s (a :: calls) = run step (step s a) calls := rfl

theorem run_append (step : σ → α → σ) (s : σ) (first rest : List α) :
    run step s (first ++ rest) = run step (run step s first) rest := by
  rw [run, List.foldl_append]
  rfl

theorem Along.of_forall {step : σ → α → σ} {good : α → Prop} :
    ∀ {calls : List α} (s : σ), (∀ a ∈ calls, good a) → Along step (fun _ a => good a) s calls
  | [], _, _ => trivial
  | a :: _, s, h => by
    refine ⟨h a List.mem_cons_self, Along.of_forall (step s a) ?_⟩
    exact fun b hb => h b (List.mem_cons_of_mem a hb)

theorem Along.and {cond' : σ → α → Prop} (h : Along step cond s calls)
    (h' : Along step cond' s calls) : Along step (fun s a => cond s a ∧ cond' s a) s calls := by
  induction calls generalizing s with
  | nil => trivial
  | cons a calls ih => exact ⟨⟨h.1, h'.1⟩, ih h.2 h'.2⟩

/-- The condition along a list in two parts. -/
theorem along_append {past rest : List α} :
    Along step cond s (past ++ rest) ↔
      Along step cond s past ∧ Along step cond (run step s past) rest := by
  induction past generalizing s with
  | nil => exact ⟨fun h => ⟨trivial, h⟩, fun h => h.2⟩
  | cons a past ih =>
    show cond s a ∧ Along step cond (step s a) (past ++ rest) ↔ _
    rw [ih]
    exact ⟨fun h => ⟨⟨h.1, h.2.1⟩, h.2.2⟩, fun h => ⟨h.1.1, h.1.2, h.2⟩⟩

/-- The condition at one call of the list. -/
theorem Along.at_call {past rest : List α} {a : α} (h : Along step cond s (past ++ a :: rest)) :
    cond (run step s past) a := by
  induction past generalizing s with
  | nil => exact h.1
  | cons b past ih => exact ih h.2

/-- What every step keeps holds after every run. -/
theorem run_invariant (inv : σ → Prop) (hstep : ∀ s a, inv s → cond s a → inv (step s a))
    (halong : Along step cond s calls) (hs : inv s) : inv (run step s calls) := by
  induction calls generalizing s with
  | nil => exact hs
  | cons a calls ih => exact ih halong.2 (hstep s a hs halong.1)

/-- The case without a condition on the calls. -/
theorem run_keeps (inv : σ → Prop) (hstep : ∀ s a, inv s → inv (step s a)) (calls : List α)
    (hs : inv s) : inv (run step s calls) := by
  induction calls generalizing s with
  | nil => exact hs
  | cons a calls ih => exact ih (hstep s a hs)

/-- The same induction for a property of the calls made so far and the state they lead to. -/
theorem run_history {cond : List α → α → Prop} (inv : List α → σ → Prop)
    (hstep : ∀ past a, inv past (run step s past) → cond past a →
      inv (past ++ [a]) (step (run step s past) a))
    (hcond : ∀ past a rest, calls = past ++ a :: rest → cond past a) (hs : inv [] s) :
    inv calls (run step s calls) := by
  induction calls using List.reverseRecOn with
  | nil => exact hs
  | append_singleton past a ih =>
    rw [run_append]
    refine hstep past a (ih ?_) (hcond past a [] rfl)
    intro past' a' rest hsplit
    refine hcond past' a' (rest ++ [a]) ?_
    rw [hsplit, List.append_assoc, List.cons_append]

/-! ## Machines with outputs -/

section Passes

/-- The states that a computation passes through after the one it starts in; the last
one, or the start when there is none, is where it ends. -/
inductive Passes (step : σ → σ → Prop) : σ → List σ → σ → Prop
  | stay (s : σ) : Passes step s [] s
  | step {s t u : σ} {path : List σ} (h : step s t) (tail : Passes step t path u) :
      Passes step s (t :: path) u

variable {step step' : σ → σ → Prop} {s t u : σ} {path path' : List σ}

theorem Passes.append (h : Passes step s path t) (h' : Passes step t path' u) :
    Passes step s (path ++ path') u := by
  induction h with
  | stay s => exact h'
  | step hstep _ ih => exact Passes.step hstep (ih h')

theorem Passes.mono (himp : ∀ a b, step a b → step' a b) (h : Passes step s path t) :
    Passes step' s path t := by
  induction h with
  | stay s => exact Passes.stay s
  | step hstep _ ih => exact Passes.step (himp _ _ hstep) ih

/-- What every step keeps holds of every state passed through, and of the last. -/
theorem Passes.invariant (inv : σ → Prop) (hstep : ∀ a b, step a b → inv a → inv b)
    (h : Passes step s path t) (hs : inv s) : (∀ passed ∈ path, inv passed) ∧ inv t := by
  induction h with
  | stay s => exact ⟨fun passed hmem => absurd hmem List.not_mem_nil, hs⟩
  | step hone _ ih =>
    have hnext := hstep _ _ hone hs
    obtain ⟨hpath, hend⟩ := ih hnext
    exact ⟨List.forall_mem_cons.mpr ⟨hnext, hpath⟩, hend⟩

end Passes

section Outputs

variable {τ β : Type}

/-- The outputs of the calls of a list, first to last. -/
def outputs (step : σ → α → σ × β) : σ → List α → List β
  | _, [] => []
  | s, a :: calls => (step s a).2 :: outputs step (step s a).1 calls

variable {step : σ → α → σ × β} {step' : τ → α → τ × β}

/-- Two machines whose states stay related, with equal outputs, as long as the condition holds. -/
theorem agree {cond : σ → α → Prop} (related : σ → τ → Prop)
    (hstep : ∀ s t a, related s t → cond s a →
      related (step s a).1 (step' t a).1 ∧ (step s a).2 = (step' t a).2) {calls : List α} {s : σ}
    {t : τ} (halong : Along (fun s a => (step s a).1) cond s calls) (hst : related s t) :
    related (run (fun s a => (step s a).1) s calls) (run (fun t a => (step' t a).1) t calls) ∧
      outputs step s calls = outputs step' t calls := by
  induction calls generalizing s t with
  | nil => exact ⟨hst, rfl⟩
  | cons a calls ih =>
    obtain ⟨hnext, hout⟩ := hstep s t a hst halong.1
    obtain ⟨hend, houts⟩ := ih halong.2 hnext
    exact ⟨hend, by rw [outputs, outputs, hout, houts]⟩

/-- The same, where the condition is on both states. -/
theorem agree_both {cond : σ × τ → α → Prop} (related : σ → τ → Prop)
    (hstep : ∀ s t a, related s t → cond (s, t) a →
      related (step s a).1 (step' t a).1 ∧ (step s a).2 = (step' t a).2) {calls : List α} {s : σ}
    {t : τ} (halong : Along (fun st a => ((step st.1 a).1, (step' st.2 a).1)) cond (s, t) calls)
    (hst : related s t) :
    related (run (fun s a => (step s a).1) s calls) (run (fun t a => (step' t a).1) t calls) ∧
      outputs step s calls = outputs step' t calls := by
  induction calls generalizing s t with
  | nil => exact ⟨hst, rfl⟩
  | cons a calls ih =>
    obtain ⟨hnext, hout⟩ := hstep s t a hst halong.1
    obtain ⟨hend, houts⟩ := ih halong.2 hnext
    exact ⟨hend, by rw [outputs, outputs, hout, houts]⟩

end Outputs

end LotusManage.Runs
