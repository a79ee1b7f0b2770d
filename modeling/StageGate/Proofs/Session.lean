import StageGate.Session

/-!
What sessions give and what they leave behind. Most of them only look: what they give is a function of
the disk and of the clock, and both stay as they are.
-/

set_option autoImplicit false

namespace StageGate.Session

variable {α β : Type} {x : Session α} {w : Surroundings}

def exec (x : Session α) (w : Surroundings) : Except Failure α × Surroundings :=
  StateT.run (ExceptT.run x) w

@[simp] theorem mapError_ok {ε ε' : Type} (f : ε → ε') (a : α) :
    (Except.ok a : Except ε α).mapError f = .ok a := rfl

@[simp] theorem mapError_error {ε ε' : Type} (f : ε → ε') (e : ε) :
    (Except.error e : Except ε α).mapError f = .error (f e) := rfl

@[simp] theorem isOk_ok {ε : Type} (a : α) : (Except.ok a : Except ε α).isOk = true := rfl

@[simp] theorem isOk_error {ε : Type} (e : ε) : (Except.error e : Except ε α).isOk = false := rfl

@[simp] theorem exec_pure (a : α) (w : Surroundings) : exec (pure a) w = (.ok a, w) := rfl

@[simp] theorem exec_throw (e : Failure) (w : Surroundings) :
    exec (throw e : Session α) w = (.error e, w) := rfl

@[simp] theorem exec_disk (w : Surroundings) : exec disk w = (.ok w.disk, w) := rfl

@[simp] theorem exec_now (w : Surroundings) : exec now w = (.ok w.now, w) := rfl

@[simp] theorem exec_setDisk (d : Disk) (w : Surroundings) :
    exec (setDisk d) w = (.ok (), { w with disk := d }) := rfl

@[simp] theorem exec_note (events : List Event) (w : Surroundings) :
    exec (note events) w = (.ok (), { w with journal := w.journal ++ events }) := rfl

@[simp] theorem exec_tell (lines : List Screen.Line) (w : Surroundings) :
    exec (tell lines) w = (.ok (), { w with screen := w.screen ++ lines }) := rfl

@[simp] theorem exec_onDisk_ok (attempt : Attempt) (path : Path) (a : α) (w : Surroundings) :
    exec (onDisk attempt path (.ok a)) w = (.ok a, w) := rfl

@[simp] theorem exec_onDisk_error (attempt : Attempt) (path : Path) (e : DiskFault) (w : Surroundings) :
    exec (onDisk attempt path (.error e) : Session α) w = (.error (.onDisk attempt path e), w) := rfl

theorem exec_bind (x : Session α) (f : α → Session β) (w : Surroundings) :
    exec (x >>= f) w = match exec x w with
      | (.ok a, next) => exec (f a) next
      | (.error e, next) => (.error e, next) := by
  simp only [exec, ExceptT.run_bind, StateT.run_bind]
  cases StateT.run (ExceptT.run x) w with
  | mk r next => cases r <;> rfl

@[simp] theorem exec_map (f : α → β) (x : Session α) (w : Surroundings) :
    exec (f <$> x) w = ((exec x w).1.map f, (exec x w).2) := by
  rw [map_eq_pure_bind, exec_bind]
  cases exec x w with
  | mk r next => cases r <;> rfl

theorem exec_bind_ok {f : α → Session β} {a : α} {next : Surroundings}
    (h : exec x w = (.ok a, next)) : exec (x >>= f) w = exec (f a) next := by
  rw [exec_bind, h]

theorem exec_bind_error {f : α → Session β} {e : Failure} {next : Surroundings}
    (h : exec x w = (.error e, next)) : exec (x >>= f) w = (.error e, next) := by
  rw [exec_bind, h]

/-! ### Sessions that only look -/

/-- The session gives what `f` says of the disk and the clock, and changes neither. -/
def Computes (x : Session α) (f : Disk → Instant → Except Failure α) : Prop :=
  ∀ w, (exec x w).1 = f w.disk w.now ∧ (exec x w).2.disk = w.disk ∧ (exec x w).2.now = w.now

namespace Computes

variable {f : Disk → Instant → Except Failure α}

theorem ok {a : α} (h : Computes x f) (ha : f w.disk w.now = .ok a) :
    ∃ next, exec x w = (.ok a, next) ∧ next.disk = w.disk ∧ next.now = w.now := by
  obtain ⟨hr, hd, hn⟩ := h w
  exact ⟨(exec x w).2, Prod.ext (hr.trans ha) rfl, hd, hn⟩

theorem error {e : Failure} (h : Computes x f) (he : f w.disk w.now = .error e) :
    ∃ next, exec x w = (.error e, next) ∧ next.disk = w.disk ∧ next.now = w.now := by
  obtain ⟨hr, hd, hn⟩ := h w
  exact ⟨(exec x w).2, Prod.ext (hr.trans he) rfl, hd, hn⟩

theorem bind {k : α → Session β} {g : α → Disk → Instant → Except Failure β} (h : Computes x f)
    (hk : ∀ a, Computes (k a) (g a)) :
    Computes (x >>= k) fun d t => (f d t).bind fun a => g a d t := by
  intro w
  dsimp only
  cases hf : f w.disk w.now with
  | error e =>
    obtain ⟨next, hx, hd, hn⟩ := h.error hf
    rw [exec_bind_error hx]
    exact ⟨rfl, hd, hn⟩
  | ok a =>
    obtain ⟨next, hx, hd, hn⟩ := h.ok hf
    obtain ⟨hr, hd', hn'⟩ := hk a next
    rw [exec_bind_ok hx]
    refine ⟨?_, hd'.trans hd, hn'.trans hn⟩
    rw [hr, hd, hn]
    rfl

theorem ite {c : Prop} [Decidable c] {y : Session α} {g : Disk → Instant → Except Failure α}
    (hx : Computes x f) (hy : Computes y g) :
    Computes (if c then x else y) fun d t => if c then f d t else g d t := by
  by_cases h : c
  · simpa [h] using hx
  · simpa [h] using hy

theorem congr {g : Disk → Instant → Except Failure α} (h : Computes x f) (hg : ∀ d t, f d t = g d t) :
    Computes x g := fun w => ⟨(h w).1.trans (hg _ _), (h w).2⟩

theorem pure (a : α) : Computes (pure a) fun _ _ => .ok a := fun _ => ⟨rfl, rfl, rfl⟩

theorem note (events : List Event) : Computes (note events) fun _ _ => .ok () :=
  fun _ => ⟨rfl, rfl, rfl⟩

theorem orRefuse (r : Except Refusal α) : Computes (orRefuse r) fun _ _ => r.mapError .refused := by
  intro w
  cases r <;> exact ⟨rfl, rfl, rfl⟩

theorem forM {xs : List β} {k : β → Session PUnit} {g : β → Disk → Instant → Except Failure PUnit}
    (hk : ∀ b, Computes (k b) (g b)) :
    Computes (xs.forM k) fun d t => xs.forM fun b => g b d t := by
  induction xs with
  | nil => exact Computes.pure PUnit.unit
  | cons b xs ih => exact (hk b).bind fun _ => ih

end Computes

/-! ### Sessions that change the disk -/

/-- What the session gives and the disk it leaves are what `f` says of the disk and the clock. -/
def Performs (x : Session α) (f : Disk → Instant → Except Failure α × Disk) : Prop :=
  ∀ w, (exec x w).1 = (f w.disk w.now).1 ∧ (exec x w).2.disk = (f w.disk w.now).2 ∧
    (exec x w).2.now = w.now

theorem Computes.performs {f : Disk → Instant → Except Failure α} (h : Computes x f) :
    Performs x fun d t => (f d t, d) := h

namespace Performs

variable {f : Disk → Instant → Except Failure α × Disk}

theorem bind {k : α → Session β} {g : α → Disk → Instant → Except Failure β × Disk}
    (h : Performs x f) (hk : ∀ a, Performs (k a) (g a)) :
    Performs (x >>= k) fun d t => match f d t with
      | (.ok a, made) => g a made t
      | (.error e, made) => (.error e, made) := by
  intro w
  dsimp only
  obtain ⟨hr, hd, hn⟩ := h w
  cases hx : exec x w with
  | mk r next =>
    rw [hx] at hr hd hn
    have hf : f w.disk w.now = (r, next.disk) := Prod.ext hr.symm hd.symm
    rw [hf]
    cases r with
    | error e =>
      rw [exec_bind_error hx]
      exact ⟨rfl, rfl, hn⟩
    | ok a =>
      obtain ⟨hr', hd', hn'⟩ := hk a next
      rw [exec_bind_ok hx, hr', hd', hn', hn]
      exact ⟨rfl, rfl, rfl⟩

theorem exec_eq {r : Except Failure α} {made : Disk} (h : Performs x f)
    (hf : f w.disk w.now = (r, made)) :
    ∃ next, exec x w = (r, next) ∧ next.disk = made ∧ next.now = w.now := by
  obtain ⟨hr, hd, hn⟩ := h w
  rw [hf] at hr hd
  exact ⟨(exec x w).2, Prod.ext hr rfl, hd, hn⟩

theorem congr {g : Disk → Instant → Except Failure α × Disk} (h : Performs x f)
    (hg : ∀ d t, f d t = g d t) : Performs x g := by
  intro w
  rw [← hg]
  exact h w

theorem tell (lines : List Screen.Line) : Performs (tell lines) fun d _ => (.ok (), d) :=
  fun _ => ⟨rfl, rfl, rfl⟩

end Performs

/-! ### Sessions that add to the journal -/

def Appends (x : Session α) : Prop := ∀ w, w.journal <+: (exec x w).2.journal

namespace Appends

theorem pure (a : α) : Appends (pure a) := fun _ => List.prefix_refl _

theorem bind {f : α → Session β} (h : Appends x) (hf : ∀ a, Appends (f a)) : Appends (x >>= f) := by
  intro w
  have hx := h w
  cases he : exec x w with
  | mk r next =>
    rw [he] at hx
    cases r with
    | error e => rwa [exec_bind_error he]
    | ok a =>
      rw [exec_bind_ok he]
      exact hx.trans (hf a next)

theorem after_note {events : List Event} (h : Appends x) (w : Surroundings) :
    w.journal ++ events <+: (exec (Session.note events >>= fun _ => x) w).2.journal := by
  rw [exec_bind_ok (exec_note events w)]
  exact h { w with journal := w.journal ++ events }

end Appends

end StageGate.Session
