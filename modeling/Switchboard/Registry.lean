import Switchboard.Connection
import Switchboard.Header

/-!
# Endpoints and their handlers

A registry knows which handler serves which name. Requests and streams have names of their own, so
one name may stand for a handler of each kind. Registering a name again replaces its handler.

A request handler turns a header and a body into another body. It may write some of it and then
fail; whether anything of that is sent is not its concern. A stream handler works on the connection
itself.
-/

namespace Switchboard

/-- How a handler can go wrong. -/
inductive Trouble
  | failed (reason : String)
  /-- It breaks off where it stands. -/
  | crashed (reason : String)
  deriving DecidableEq, Repr

/-- A handler of requests. -/
structure RequestHandler where
  title : String
  /-- What it does: given a header and a body, it adds to the answer. -/
  run : Header → Bytes → EStateM Trouble Bytes Unit

/-- A handler of streams. -/
structure StreamHandler where
  title : String
  run : Header → EStateM Trouble Connection Unit

/-- What a request handler has brought about. -/
structure RequestHandler.Answer where
  output : Bytes
  trouble : Option Trouble

/-- The answer of a handler to a header and a body. -/
def RequestHandler.answer (handler : RequestHandler) (header : Header) (body : Bytes) :
    RequestHandler.Answer :=
  match handler.run header body [] with
  | .ok () output => ⟨output, none⟩
  | .error trouble output => ⟨output, some trouble⟩

/-- Which handler serves which name. Every name occurs at most once in each list. -/
structure Registry where
  request : List (String × RequestHandler)
  stream : List (String × StreamHandler)

namespace Registry

variable {α : Type}

def empty : Registry := ⟨[], []⟩

instance : Inhabited Registry := ⟨empty⟩

/-- A table in which a name has a new meaning. -/
def entering (name : String) (value : α) (table : List (String × α)) : List (String × α) :=
  (name, value) :: table.filter fun entry => entry.1 != name

def addRequest (registry : Registry) (name : String) (handler : RequestHandler) : Registry :=
  { registry with request := entering name handler registry.request }

def addStream (registry : Registry) (name : String) (handler : StreamHandler) : Registry :=
  { registry with stream := entering name handler registry.stream }

def request? (registry : Registry) (name : String) : Option RequestHandler :=
  registry.request.lookup name

def stream? (registry : Registry) (name : String) : Option StreamHandler :=
  registry.stream.lookup name

/-- The names of a table in the order of their characters. -/
def namesOf (table : List (String × α)) : List String :=
  (table.map (·.1)).mergeSort fun left right => decide (left ≤ right)

def outline (registry : Registry) : Outline :=
  .record "Registry"
    [("request", .sequence ((namesOf registry.request).map .text)),
      ("stream", .sequence ((namesOf registry.stream).map .text))]
    false

private theorem lookup_filter_ne {table : List (String × α)} {name other : String}
    (different : other ≠ name) :
    (table.filter fun entry => entry.1 != name).lookup other = table.lookup other := by
  induction table with
  | nil => rfl
  | cons entry table ih =>
      obtain ⟨key, value⟩ := entry
      by_cases here : key = name
      · subst here
        have unequal : (other == key) = false := by simpa using different
        simp [List.lookup_cons, ih, unequal]
      · simp [List.lookup_cons, ih, here]

/-- The last registration of a name is the one that counts, and other names do not notice it. -/
theorem lookup_entering (table : List (String × α)) (name other : String) (value : α) :
    (entering name value table).lookup other =
      if other = name then some value else table.lookup other := by
  by_cases same : other = name
  · simp [entering, same]
  · have unequal : (other == name) = false := by simpa using same
    simp [entering, List.lookup_cons, same, unequal, lookup_filter_ne same]

@[simp]
theorem request?_addRequest (registry : Registry) (name other : String)
    (handler : RequestHandler) :
    (registry.addRequest name handler).request? other =
      if other = name then some handler else registry.request? other :=
  lookup_entering _ _ _ _

@[simp]
theorem stream?_addStream (registry : Registry) (name other : String) (handler : StreamHandler) :
    (registry.addStream name handler).stream? other =
      if other = name then some handler else registry.stream? other :=
  lookup_entering _ _ _ _

end Registry

end Switchboard
