import Recheck.Session.Query

/-!
What an activity of a session comes to: how it ends, and the session that it leaves. One lemma
for each way to put activities together.
-/

namespace Recheck.Proofs.Activities

variable {σ α β : Type}

/-- How an activity ends in a session, and the session that it leaves. -/
def outcome (x : Activity σ α) (s : Session σ) : Except Failure α × Session σ := x.run.run s

@[simp]
theorem outcome_pure (a : α) (s : Session σ) : outcome (pure a : Activity σ α) s = (.ok a, s) :=
  rfl

@[simp]
theorem outcome_throw (failure : Failure) (s : Session σ) :
    outcome (throw failure : Activity σ α) s = (.error failure, s) := rfl

theorem outcome_bind (x : Activity σ α) (f : α → Activity σ β) (s : Session σ) :
    outcome (x >>= f) s =
      match outcome x s with
      | (.ok a, s') => outcome (f a) s'
      | (.error failure, s') => (.error failure, s') := by
  change (ExceptT.bindCont f (x.run.run s).1).run (x.run.run s).2 = _
  unfold outcome
  rcases x.run.run s with ⟨a | failure, s'⟩ <;> rfl

theorem outcome_bind_of_ok {x : Activity σ α} {s s' : Session σ} {a : α}
    (h : outcome x s = (.ok a, s')) (f : α → Activity σ β) :
    outcome (x >>= f) s = outcome (f a) s' := by
  rw [outcome_bind, h]

theorem outcome_bind_of_error {x : Activity σ α} {s s' : Session σ} {failure : Failure}
    (h : outcome x s = (.error failure, s')) (f : α → Activity σ β) :
    outcome (x >>= f) s = (.error failure, s') := by
  rw [outcome_bind, h]

theorem outcome_bind_congr {f g : α → Activity σ β}
    (h : ∀ a s, outcome (f a) s = outcome (g a) s) (x : Activity σ α) (s : Session σ) :
    outcome (x >>= f) s = outcome (x >>= g) s := by
  rw [outcome_bind, outcome_bind]
  rcases outcome x s with ⟨failure | a, s'⟩
  · rfl
  · exact h a s'

theorem outcome_bind_related (r : Session σ → Session σ → Prop)
    (htrans : ∀ {s s' s''}, r s s' → r s' s'' → r s s'') {x : Activity σ α} {f : α → Activity σ β}
    (hx : ∀ s, r s (outcome x s).2) (hf : ∀ a s, r s (outcome (f a) s).2) (s : Session σ) :
    r s (outcome (x >>= f) s).2 := by
  have hfirst := hx s
  rw [outcome_bind]
  rcases hout : outcome x s with ⟨failure | a, s'⟩
  all_goals rw [hout] at hfirst
  · exact hfirst
  · exact htrans hfirst (hf a s')

@[simp]
theorem outcome_map (f : α → β) (x : Activity σ α) (s : Session σ) :
    outcome (f <$> x) s = ((outcome x s).1.map f, (outcome x s).2) := by
  rw [map_eq_pure_bind, outcome_bind]
  rcases outcome x s with ⟨a | failure, s'⟩ <;> rfl

@[simp]
theorem outcome_modify (f : Session σ → Session σ) (s : Session σ) :
    outcome (modify f : Activity σ PUnit) s = (.ok ⟨⟩, f s) := rfl

@[simp]
theorem outcome_modifyGet (f : Session σ → α × Session σ) (s : Session σ) :
    outcome (modifyGet f : Activity σ α) s = (.ok (f s).1, (f s).2) := rfl

@[simp]
theorem outcome_get (s : Session σ) : outcome (get : Activity σ (Session σ)) s = (.ok s, s) := rfl

@[simp]
theorem outcome_ask (question : σ → α × σ) (s : Session σ) :
    outcome (Session.ask question) s =
      (.ok (question s.world).1, { s with world := (question s.world).2 }) := rfl

@[simp]
theorem outcome_lift (x : Except Failure α) (s : Session σ) :
    outcome (liftM x : Activity σ α) s = (x, s) := by
  cases x <;> rfl

theorem exists_of_map_eq_ok {ε : Type} {answer : Except ε α} {f : α → β} {b : β}
    (h : answer.map f = .ok b) : ∃ a, answer = .ok a ∧ f a = b := by
  cases answer with
  | error e => cases h
  | ok a => exact ⟨a, rfl, Except.ok.inj h⟩

theorem mapM_eq_ok {ε : Type} {f : α → Except ε β} {g : α → β} {items : List α}
    (h : ∀ item ∈ items, f item = .ok (g item)) : items.mapM f = .ok (items.map g) := by
  induction items with
  | nil => rfl
  | cons item items ih =>
      obtain ⟨hitem, hitems⟩ := List.forall_mem_cons.mp h
      rw [List.mapM_cons, hitem, ih hitems]
      rfl

theorem mapM_eq_error {ε : Type} {f : α → Except ε β} {before after : List α} {item : α} {e : ε}
    (hbefore : ∀ b ∈ before, ∃ answer, f b = .ok answer) (hitem : f item = .error e) :
    (before ++ item :: after).mapM f = .error e := by
  induction before with
  | nil => rw [List.nil_append, List.mapM_cons, hitem]; rfl
  | cons b before ih =>
      obtain ⟨⟨answer, hb⟩, hrest⟩ := List.forall_mem_cons.mp hbefore
      rw [List.cons_append, List.mapM_cons, hb, ih hrest]
      rfl

end Recheck.Proofs.Activities
