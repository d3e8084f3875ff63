import Seedkeeper.Client.Basic

/-!
Operations on a client, one after the other.

An operation that fails keeps the state it failed in, and nothing after it is done. So a relation
between states that every operation keeps, whether it succeeds or fails, is kept by them in a row
(`Run.Keeps.bind`), if it is transitive. What cannot fail adds no failure to what comes before it
(`Run.FailsWith.bind`).
-/

namespace Seedkeeper.Client

variable {σ α β : Type}

/-! ### Operations in a row -/

@[simp] theorem Run.from_pure (a : α) (s : σ) : (pure a : Run σ α).from s = (.ok a, s) := rfl

@[simp] theorem Run.from_throw (e : Error) (s : σ) :
    (throw e : Run σ α).from s = (.error e, s) := rfl

@[simp] theorem Run.from_get (s : σ) : (get : Run σ σ).from s = (.ok s, s) := rfl

@[simp] theorem Run.from_set (s t : σ) : (set t : Run σ PUnit).from s = (.ok ⟨⟩, t) := rfl

@[simp] theorem Run.from_modify (f : σ → σ) (s : σ) :
    (modify f : Run σ PUnit).from s = (.ok ⟨⟩, f s) := rfl

/-- A second operation goes on where the first one succeeded. -/
theorem Run.from_bind (x : Run σ α) (f : α → Run σ β) (s : σ) :
    (x >>= f).from s = match x.from s with
      | (.ok a, t) => (f a).from t
      | (.error e, t) => (.error e, t) := by
  simp only [Run.from, ExceptT.run_bind, StateT.run_bind]
  cases hx : StateT.run (ExceptT.run x) s with
  | mk answer t => cases answer <;> rfl

theorem Run.from_bind_ok {x : Run σ α} {a : α} {s t : σ} (h : x.from s = (.ok a, t))
    (f : α → Run σ β) : (x >>= f).from s = (f a).from t := by
  rw [from_bind, h]

theorem Run.from_bind_error {x : Run σ α} {e : Error} {s t : σ} (h : x.from s = (.error e, t))
    (f : α → Run σ β) : (x >>= f).from s = (.error e, t) := by
  rw [from_bind, h]

/-- To fail for another reason changes nothing else. -/
theorem Run.from_rethrow (x : Run σ α) (reason : Error → Error) (s : σ) :
    (tryCatch x fun e => throw (reason e)).from s = ((x.from s).1.mapError reason, (x.from s).2) := by
  simp only [Run.from, ExceptT.run_tryCatch, StateT.run_bind]
  cases StateT.run (ExceptT.run x) s with
  | mk answer t => cases answer <;> rfl

/-! ### What operations keep -/

/-- Whether an operation leads from every state to a related one, whatever it answers. -/
def Run.Keeps (related : σ → σ → Prop) (x : Run σ α) : Prop := ∀ s, related s (x.from s).2

variable {related : σ → σ → Prop}

/-- Operations in a row keep what each of them keeps. -/
theorem Run.Keeps.bind {x : Run σ α} {f : α → Run σ β}
    (htrans : ∀ {s t u}, related s t → related t u → related s u) (hx : x.Keeps related)
    (hf : ∀ a, (f a).Keeps related) : (x >>= f).Keeps related := by
  intro s
  have hfirst := hx s
  rw [from_bind]
  cases hanswer : x.from s with
  | mk answer t =>
    rw [hanswer] at hfirst
    cases answer with
    | ok a => exact htrans hfirst (hf a t)
    | error e => exact hfirst

/-! ### How operations fail -/

variable {reason reason' : σ → Error → Prop} {left : σ → σ}

/-- Whether an operation never fails. -/
def Run.Succeeds (x : Run σ α) : Prop := ∀ s, ∃ a t, x.from s = (.ok a, t)

theorem Run.succeeds_pure (a : α) : (pure a : Run σ α).Succeeds := fun s => ⟨a, s, rfl⟩

theorem Run.succeeds_modify (f : σ → σ) : (modify f : Run σ PUnit).Succeeds := fun s => ⟨⟨⟩, f s, rfl⟩

theorem Run.Succeeds.bind {x : Run σ α} {f : α → Run σ β} (hx : x.Succeeds)
    (hf : ∀ a, (f a).Succeeds) : (x >>= f).Succeeds := by
  intro s
  obtain ⟨a, t, ha⟩ := hx s
  rw [from_bind_ok ha]
  exact hf a t

/-- Whether an operation fails for some reasons and no others, and what it leaves of the state then. -/
def Run.FailsWith (reason : σ → Error → Prop) (left : σ → σ) (x : Run σ α) : Prop :=
  ∀ s e t, x.from s = (.error e, t) ↔ reason s e ∧ t = left s

theorem Run.Succeeds.failsWith {x : Run σ α} (h : x.Succeeds) :
    x.FailsWith (fun _ _ => False) left := by
  intro s e t
  obtain ⟨a, u, ha⟩ := h s
  simp [ha]

theorem Run.FailsWith.congr {x : Run σ α} (h : x.FailsWith reason left)
    (hreason : ∀ s e, reason s e ↔ reason' s e) : x.FailsWith reason' left := by
  intro s e t
  rw [h s e t, hreason]

/-- What cannot fail, after what can, adds no failure. -/
theorem Run.FailsWith.bind {x : Run σ α} {f : α → Run σ β} (hx : x.FailsWith reason left)
    (hf : ∀ a, (f a).Succeeds) : (x >>= f).FailsWith reason left := by
  intro s e t
  rw [← hx s e t, from_bind]
  cases hanswer : x.from s with
  | mk answer u =>
    cases answer with
    | ok a =>
      obtain ⟨b, v, hb⟩ := hf a u
      simp [hb]
    | error e' => simp

end Seedkeeper.Client
