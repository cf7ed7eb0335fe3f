/-
Requests to a generator, and sessions of them.

A generator answers each request from the description values it is given and from its
tables, which are its only state: installing them is the only request that changes a
generator, and installing them twice is installing them once.  A session runs requests
in order on one generator and keeps every answer, so a fault in one request does not
stop the next.  Every request is answered with the same number of calls already open,
the `depth` of the session.
-/
import StubGen.Header
import StubGen.FileName
import StubGen.Text.Tidy

namespace StubGen

/-- A request to a generator. -/
inductive Request where
  | typeName (type : Node)
  | templateParams (params : Node)
  | supers (supers : Node)
  | function (name values : Node)
  | member (name type : Node)
  | accessSection (name data : Node) (functions : Bool)
  | header (spec : Node)
  | fileName (name : Node)
  | tidy (text : Node)
  | install

/-- The answer to a request. -/
inductive Answer where
  | text (s : List Text.Point)
  | template (params template : List Text.Point)
  | header (raw tidied : List Text.Point)
  | done

/-- Whether a request, once formed, installs the tables. -/
def Request.installs : Except Fault Request → Bool
  | .ok .install => true
  | _ => false

namespace Generator

/-- The answer of a generator to a request asked for when `depth` calls are open. -/
def answer (g : Generator) (depth : Nat) : Request → Except Fault Answer
  | .typeName v => .text <$> g.typeName depth v
  | .templateParams v => do
    let params ← g.templateParams depth v
    pure (.template params (template params))
  | .supers v => .text <$> g.supers depth v
  | .function name values => .text <$> g.function depth name values
  | .member name type => .text <$> g.member depth name type
  | .accessSection name data functions => .text <$> g.accessSection depth name data functions
  | .header spec => do
    let raw := (← g.header depth spec).text
    pure (.header raw (Text.tidy raw))
  | .fileName v => .text <$> FileName.ofNode v
  | .tidy v => do pure (.text (Text.tidy (← v.asText "splitlines")))
  | .install => .ok .done

/-- The generator after a request: installing sets up the tables, nothing else changes. -/
def after (g : Generator) : Request → Generator
  | .install => g.install
  | _ => g

/-- The answers of a session of requests run in order on one generator, each asked for
when `depth` calls are open.  A request that could not be formed answers the fault that
stopped it and leaves the generator as it is. -/
def session (g : Generator) (depth : Nat) :
    List (Except Fault Request) → List (Except Fault Answer)
  | [] => []
  | .error f :: rs => .error f :: g.session depth rs
  | .ok r :: rs => g.answer depth r :: (g.after r).session depth rs

end Generator

end StubGen
