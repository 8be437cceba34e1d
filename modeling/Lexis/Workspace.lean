import Lexis.Event

/-!
# Workspace — open documents and their diagnostics

A workspace holds the present text of each document that is open.  Opening, changing or
validating a document publishes its diagnostics: none where its text scans, and one at the place
of the fault where it does not.  What is published depends on the document's name and present
text alone.
-/

namespace Lexis

/-! ### Diagnostics of one text -/

/-- A place in a document: a line, and a character within it. -/
structure Location where
  line      : Int
  character : Int
  deriving DecidableEq, Repr

/-- What an editor shows at a range of a document. -/
structure Remark where
  start    : Location
  stop     : Location
  message  : String
  /-- How grave the matter is; one for an error. -/
  severity : Nat
  /-- The name of the tool that remarks. -/
  source   : String
  deriving DecidableEq, Repr

/-- The remark on a fault, at its one character. -/
def Fault.remark (fault : Fault) : Remark where
  start    := ⟨fault.position.line, fault.position.column⟩
  stop     := ⟨fault.position.line, fault.position.column + 1⟩
  message  := fault.message
  severity := 1
  source   := "glscan"

/-- The part of a document's name behind its last slash. -/
def documentFile (uri : String) : String :=
  String.ofList (uri.toList.reverse.takeWhile (· ≠ '/')).reverse

/-- The remarks on a text: one for the fault that stops its scan. -/
def remarks (uri text : String) : List Remark :=
  (scan text (documentFile uri) 0).fault?.toList.map Fault.remark

/-! ### Documents -/

/-- The open documents, each with its name and present text. -/
structure Workspace where
  documents : List (String × String)
  deriving DecidableEq, Repr

/-- The remarks on a document, as they go out, and the events of making them. -/
structure Publication where
  uri     : String
  remarks : List Remark
  events  : List Event
  deriving DecidableEq, Repr

/-- The publication of a text as a document's. -/
def publish (uri text : String) : Publication where
  uri     := uri
  remarks := Lexis.remarks uri text
  events  :=
    [(scan text (documentFile uri) 0).event (documentFile uri),
     .publishing (Lexis.remarks uri text).length uri]

/-- What an editor asks of a workspace. -/
inductive Request where
  /-- A document is opened with a text. -/
  | opening (uri text : String)
  /-- The whole text of a document is changed, some number of times in turn. -/
  | change (uri : String) (texts : List String)
  /-- The diagnostics of a document are asked for. -/
  | validation (uri : String)
  deriving DecidableEq, Repr

/-- The document that a request is about. -/
def Request.uri : Request → String
  | .opening uri _  => uri
  | .change uri _   => uri
  | .validation uri => uri

namespace Workspace

/-- No documents. -/
def empty : Workspace := ⟨[]⟩

/-- The present text of a document. -/
def text? (w : Workspace) (uri : String) : Option String :=
  w.documents.lookup uri

/-- The workspace with the text of a document set. -/
def put (w : Workspace) (uri text : String) : Workspace :=
  ⟨(uri, text) :: w.documents.filter fun document => document.1 ≠ uri⟩

/-- The workspace after a request; of several changes the last one stays. -/
def apply (w : Workspace) : Request → Workspace
  | .opening uri text => w.put uri text
  | .change uri texts =>
    match texts.getLast? with
    | some text => w.put uri text
    | none      => w
  | .validation _ => w

/-- The workspace after a request, and what the request publishes. -/
def handle (w : Workspace) (request : Request) : Workspace × Publication :=
  let after := w.apply request
  (after, publish request.uri ((after.text? request.uri).getD ""))

end Workspace

end Lexis
