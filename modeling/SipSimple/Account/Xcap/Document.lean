import SipSimple.Account.Xcap.Handlers

/-!
# Documents on the XCAP server

A `Document` holds the content of a document with the etag the server gave it. The answer of the
server is an input. The file that caches a document is left out. `ResourceListsDocument` overrides
`update` to bring the derived lists up to date before the content is sent.
-/

namespace SipSimple.Account.Xcap

open Payloads (ResourceList ResourceLists ListName XMLItem Outcome)

/-- What a document uses of the element at its root. -/
class RootElement (α : Type) where
  isDirty : α → Bool
  /-- `__set_dirty__(False)` -/
  clean : α → α

instance : RootElement ResourceLists where
  isDirty := ResourceLists.isDirty
  clean := ResourceLists.clean

/-- The `dirty` here is the one in the `__dict__` of the document. -/
structure Document (α : Type) where
  content : Option α := none
  etag : Option String := none
  dirty : Bool := false
  supported : Bool := false

inductive XCAPError
  | xcapError
  | fetchRequiredError
  deriving DecidableEq, Repr

/-- What comes back for a GET: a document that parses, one that does not, or an error. -/
inductive Fetched (α : Type)
  | document (content : α) (etag : String)
  | invalid
  | notModified
  | notFound
  | error

/-- What comes back for a PUT or DELETE. -/
inductive Response
  | ok (etag : String)
  | notFound
  | preconditionFailed
  | error
  deriving DecidableEq, Repr

namespace Document

variable {α : Type} [RootElement α]

/-- The property `dirty`. -/
def isDirty (document : Document α) : Bool :=
  document.dirty || document.content.any RootElement.isDirty

/-- Setting the property to false. -/
def clean (document : Document α) : Document α :=
  { document with content := document.content.map RootElement.clean, dirty := false }

def reset (document : Document α) : Document α :=
  { document with content := none, etag := none, dirty := false }

/-- The application of the document is among the auids of the server, or not. -/
def initializeDocument (document : Document α) (supported : Bool) : Document α :=
  let document := { document with supported := supported }
  if supported then document else document.reset

def fetch (document : Document α) : Fetched α → Outcome (Document α) XCAPError
  | .document content etag =>
      ({ document with content := some content, etag := some etag, dirty := false }, none)
  | .invalid => (document, some .xcapError)
  | .notModified => (document, none)
  | .notFound => (if document.content.isSome then document.reset else document, none)
  | .error => (document, some .xcapError)

def update (document : Document α) (response : Response) : Outcome (Document α) XCAPError :=
  if document.isDirty then
    match response with
    | .ok etag =>
        ({ document with etag := document.content.map fun _ => etag }.clean, none)
    | .notFound =>
        if document.content.isNone then ({ document with etag := none }.clean, none)
        else (document, some .xcapError)
    | .preconditionFailed => (document, some .fetchRequiredError)
    | .error => (document, some .xcapError)
  else (document, none)

end Document

/-! ### `ResourceListsDocument.update` -/

/-- The addressbook and the derived lists before an upload. The derived lists are looked at only if a
contact or policy is dirty. -/
def refresh (content : ResourceLists) : Outcome ResourceLists PyError :=
  match content.lists .sipsimpleAddressbook with
  | none => (content, some .keyError)
  | some book =>
      let book := pruneGroups book
      let content := content.set .sipsimpleAddressbook book
      if book.contacts.items.any XMLItem.isDirty || book.policies.items.any XMLItem.isDirty then
        if Derived.all.all fun derived => (content.lists derived.listName).isSome then
          updateDerivedLists book.contacts.items book.policies.items Derived.all content
        else (content, some .keyError)
      else (content, none)

/-- The document as it is sent, if it is, and the exception of the part before. -/
def prepare (document : Document ResourceLists) : Outcome (Document ResourceLists) PyError :=
  match document.content with
  | none => (document, none)
  | some content => ({ document with content := some (refresh content).1 }, (refresh content).2)

end SipSimple.Account.Xcap
