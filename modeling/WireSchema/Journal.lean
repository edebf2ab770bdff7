/-!
Computations that keep a journal. Entries made before a failure stay in the journal, so a failed
computation still shows how far it came. The operations form a lawful monad.
-/
namespace WireSchema

structure Journal (Entry Failure α : Type) where
  entries : List Entry
  result : Except Failure α

namespace Journal
variable {Entry Failure α β : Type}

def record (entries : List Entry) : Journal Entry Failure Unit := ⟨entries, .ok ()⟩

def fail (failure : Failure) : Journal Entry Failure α := ⟨[], .error failure⟩

def lift (result : Except Failure α) : Journal Entry Failure α := ⟨[], result⟩

def require (failure : Failure) : Option α → Journal Entry Failure α
  | none => fail failure
  | some a => ⟨[], .ok a⟩

protected def pure (a : α) : Journal Entry Failure α := ⟨[], .ok a⟩

/-- Goes on only after a success; the entries of both parts are kept in order. -/
protected def bind (x : Journal Entry Failure α) (f : α → Journal Entry Failure β) :
    Journal Entry Failure β :=
  match x.result with
  | .error failure => ⟨x.entries, .error failure⟩
  | .ok a => ⟨x.entries ++ (f a).entries, (f a).result⟩

instance : Monad (Journal Entry Failure) where
  pure := Journal.pure
  bind := Journal.bind

theorem bind_of_ok {x : Journal Entry Failure α} {a : α} (h : x.result = .ok a)
    (f : α → Journal Entry Failure β) :
    x >>= f = ⟨x.entries ++ (f a).entries, (f a).result⟩ := by
  show Journal.bind x f = _
  simp [Journal.bind, h]

theorem bind_of_error {x : Journal Entry Failure α} {e : Failure} (h : x.result = .error e)
    (f : α → Journal Entry Failure β) : x >>= f = ⟨x.entries, .error e⟩ := by
  show Journal.bind x f = _
  simp [Journal.bind, h]

@[simp] theorem record_bind (entries : List Entry) (f : Unit → Journal Entry Failure β) :
    record entries >>= f = ⟨entries ++ (f ()).entries, (f ()).result⟩ := rfl

@[simp] theorem lift_ok_bind (a : α) (f : α → Journal Entry Failure β) :
    lift (.ok a) >>= f = f a := rfl

@[simp] theorem require_some_bind (e : Failure) (a : α) (f : α → Journal Entry Failure β) :
    require e (some a) >>= f = f a := rfl

private theorem id_map_eq (x : Journal Entry Failure α) : Journal.bind x Journal.pure = x := by
  rcases x with ⟨entries, _ | _⟩ <;> simp [Journal.bind, Journal.pure]

private theorem pure_bind_eq (a : α) (f : α → Journal Entry Failure β) :
    Journal.bind (Journal.pure a) f = f a := by
  simp [Journal.bind, Journal.pure]

private theorem bind_bind_eq {γ : Type} (x : Journal Entry Failure α)
    (f : α → Journal Entry Failure β) (g : β → Journal Entry Failure γ) :
    Journal.bind (Journal.bind x f) g = Journal.bind x fun a => Journal.bind (f a) g := by
  rcases x with ⟨entries, _ | a⟩ <;> simp only [Journal.bind]
  cases (f a).result <;> simp

instance : LawfulMonad (Journal Entry Failure) :=
  LawfulMonad.mk' _ id_map_eq pure_bind_eq bind_bind_eq

end Journal

end WireSchema
