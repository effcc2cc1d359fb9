/-!
# Computations that may fail

How a computation that may fail went tells how its parts went. These are the laws by which the
operations and the settings are taken apart.

* `bind_eq_ok`, `bind_eq_error` : a computation and what follows it;
* `seq_eq_ok_iff` : a check before a computation;
* `map_eq_ok`, `map_eq_error`, `map_bind` : wrapping what was computed;
* `toOption_bind`, `toOption_map`, `toOption_eq_some_iff` : what was computed, whatever a failure says;
* `exists_of_mem_mapM` : one computation for each member of a list.
-/

namespace PasswordGrant

variable {ε α β : Type} {x : Except ε α} {e : ε}

/-- A computation and what follows it go well if each of them does. -/
theorem bind_eq_ok {next : α → Except ε β} {b : β} :
    (x >>= next) = .ok b ↔ ∃ a, x = .ok a ∧ next a = .ok b := by
  cases x with
  | error _ => simp [bind, Except.bind]
  | ok a => simp [bind, Except.bind]

/-- They fail with the failure of the first of them that fails. -/
theorem bind_eq_error {next : α → Except ε β} :
    (x >>= next) = .error e ↔ x = .error e ∨ ∃ a, x = .ok a ∧ next a = .error e := by
  cases x with
  | error _ => simp [bind, Except.bind]
  | ok a => simp [bind, Except.bind]

/-- A check before a computation leaves it as it is. -/
theorem seq_eq_ok_iff {check : Except ε Unit} {a : α} :
    (do check; x) = .ok a ↔ check = .ok () ∧ x = .ok a := by
  rw [bind_eq_ok]
  exact ⟨fun ⟨_, hcheck, hx⟩ => ⟨hcheck, hx⟩, fun ⟨hcheck, hx⟩ => ⟨(), hcheck, hx⟩⟩

/-- Wrapping goes well if there is something to wrap. -/
theorem map_eq_ok {f : α → β} {b : β} : x.map f = .ok b ↔ ∃ a, x = .ok a ∧ f a = b := by
  cases x with
  | error _ => simp [Except.map]
  | ok a => simp [Except.map]

/-- Wrapping keeps the failure. -/
theorem map_eq_error {f : α → β} : x.map f = .error e ↔ x = .error e := by
  cases x with
  | error _ => simp [Except.map]
  | ok a => simp [Except.map]

/-- Wrapping afterwards is wrapping at the end of what follows. -/
theorem map_bind {γ : Type} (f : β → γ) (next : α → Except ε β) :
    (x.bind next).map f = x.bind fun a => (next a).map f := by
  cases x with
  | error _ => rfl
  | ok a => rfl

/-- What comes of a computation tells that it went well. -/
theorem eq_ok_of_toOption {a : α} (h : x.toOption = some a) : x = .ok a := by
  cases x with
  | error _ => cases h
  | ok b => rw [Option.some.inj h]

/-- What comes of a computation and what follows it comes of both of them. -/
theorem toOption_bind {next : α → Except ε β} :
    (x >>= next).toOption = x.toOption.bind fun a => (next a).toOption := by
  cases x with
  | error _ => rfl
  | ok a => rfl

/-- What comes of a computation is wrapped with it. -/
theorem toOption_map {f : α → β} : (x.map f).toOption = x.toOption.map f := by
  cases x with
  | error _ => rfl
  | ok a => rfl

/-- What comes of a computation that goes well is what was computed. -/
theorem toOption_eq_some_iff {a : α} : x.toOption = some a ↔ x = .ok a := by
  refine ⟨eq_ok_of_toOption, ?_⟩
  rintro rfl
  rfl

/-- What was computed for the members of a list comes from one of them each. -/
theorem exists_of_mem_mapM {f : α → Option β} {as : List α} {bs : List β} {b : β}
    (h : as.mapM f = some bs) (hb : b ∈ bs) : ∃ a ∈ as, f a = some b := by
  induction as generalizing bs with
  | nil =>
    cases h
    cases hb
  | cons a as ih =>
    simp only [List.mapM_cons, Option.bind_eq_bind, Option.pure_def, Option.bind_eq_some_iff] at h
    obtain ⟨first, hfirst, rest, hrest, hbs⟩ := h
    cases hbs
    rcases List.mem_cons.mp hb with rfl | hlater
    · exact ⟨a, List.mem_cons_self, hfirst⟩
    · obtain ⟨a', hmem, hcomputed⟩ := ih hrest hlater
      exact ⟨a', List.mem_cons_of_mem a hmem, hcomputed⟩

end PasswordGrant
