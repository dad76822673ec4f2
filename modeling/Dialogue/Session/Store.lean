import Dialogue.Session.Basic

/-! # Session stores

Sessions live in a store under their ids.  A store may be remote, so every operation may fail; a
failed one changes nothing.  The type of the store's state is a parameter, which keeps the engine
independent of where sessions really are.

* `SessionStore` — the operations.
* `SessionStore.inMemory` — a dictionary, which never fails.
* `SessionStore.failing` — a store one of whose operations always fails.
-/

namespace Dialogue

/-- Failure of a session store. -/
inductive StoreError where
  | unavailable (reason : String)
  | corrupt (id reason : String)
deriving DecidableEq, Repr

/-- The wording of a store failure. -/
def StoreError.message : StoreError → String
  | .unavailable reason => s!"session store unavailable: {reason}"
  | .corrupt id reason => s!"session `{id}` could not be decoded: {reason}"

/-- A store whose state is a `τ`. -/
structure SessionStore (τ : Type) where
  get : τ → String → Except StoreError (Option Session)
  put : τ → Session → Except StoreError τ
  delete : τ → String → Except StoreError τ
  ids : τ → Except StoreError (List String)
  /-- Whether several processes share the sessions. -/
  isDistributed : Bool

namespace SessionStore

/-- Sessions in a dictionary. -/
def inMemory : SessionStore (Dict Session) where
  get sessions id := .ok (sessions.find? id)
  put sessions s := .ok (sessions.insert s.id s)
  delete sessions id := .ok (sessions.erase id)
  ids sessions := .ok sessions.names
  isDistributed := false

/-- The operations of a store. -/
inductive Operation where
  | get
  | put
  | delete
  | ids
deriving DecidableEq, Repr

/-- The same store, except that one operation always fails. -/
def failing {τ : Type} (store : SessionStore τ) (operation : Operation) (error : StoreError) :
    SessionStore τ :=
  match operation with
  | .get => { store with get := fun _ _ => .error error }
  | .put => { store with put := fun _ _ => .error error }
  | .delete => { store with delete := fun _ _ => .error error }
  | .ids => { store with ids := fun _ => .error error }

end SessionStore

end Dialogue
