/-
The request service: what each request gets.

A request is a dictionary whose `op` names what is asked.  A generator operation is
answered by a generator with the standard tables; a session runs a list of them, in
order, on one generator that starts without tables.  Files are written, and folders
scanned, in a fresh scratch folder, shown as `<tmp>`.  A request the service will not
run is refused with a reason: a request that is no dictionary, an operation it does not
know, a session step it does not allow, a scan path that is not a plain relative path, or
a class name that would lead out of the output folder.  A field that a request lacks is the fault of a missing key.

Every operation starts with `requestDepth` calls open, and the reading of a request
opens its outermost list or dictionary with `readDepth` calls open (see `CallDepth`).
-/
import StubGen.Session
import StubGen.Output
import StubGen.Folder.Scan
import StubGen.Folder.System
import StubGen.Node.Show

namespace StubGen.Service

open Text (Point lit)

/-- The calls open when an operation starts: the service, its loop over requests, the
handling of one request and the choice of its operation. -/
def requestDepth : Nat := 4

/-- The calls open when the outermost list or dictionary of a request is opened: the
service, its loop over requests, three steps of the reader, and the reader's scanner. -/
def readDepth : Nat := 6

/-- The calls open when the setup of a scan makes the folders of one listed entry: the
service, its loop over requests, the handling of one request, the choice of its operation,
the scan, and the setup of the entry. -/
def setupDepth : Nat := 6

/-- The calls open when a step of a scan calls the scanner: the six of `setupDepth` up to
the scan, then the running of the step and the catching of what it prints. -/
def stepDepth : Nat := 8

/-- How the scratch folder of a request is shown. -/
def scratch : List Point := lit "<tmp>"

/-- The length in bytes of the real path of the scratch folder. -/
def scratchSize : Nat := 28

/-- The output folder of `write_out`: the scratch folder itself. -/
def outputRoot : Folder.Root := ⟨scratch ++ lit "/", scratchSize + 1, Folder.scratchPath⟩

/-- The description folder of a scan. -/
def yamlRoot : Folder.Root :=
  ⟨scratch ++ lit "/yaml/", scratchSize + 6, Folder.scratchPath ++ [Folder.nameOf "yaml"]⟩

/-- The text of the description folder's real path, which the keys of a scan are cut from.
The scratch folder's real name stands in it, and no path of a request can hold that name
(see `Folder.scratchName`), so the text stands in a walked path only at its start.  The
answers show the scratch folder as `<tmp>` instead. -/
def yamlText : List Point := lit "/tmp/" ++ Text.decode Folder.scratchName ++ lit "/yaml/"

/-- The source folder of a scan. -/
def sourceRoot : Folder.Root :=
  ⟨scratch ++ lit "/source/", scratchSize + 8, Folder.scratchPath ++ [Folder.nameOf "source"]⟩

/-- The system of a scan, before the request's entries: the scratch folder holds the empty
description and source folders. -/
def scanSystem : Folder.Tree :=
  Folder.system (Folder.Tree.ofNames [] [("source", .empty), ("yaml", .empty)])

/-- The description file that `get_dict` reads. -/
def descriptionPath : String := "<tmp>/spec.yaml"

/-- What a step of a scan found or made. -/
inductive Finding where
  /-- The folders that hold descriptions, with those descriptions. -/
  | walked (folders : List (List Point × List (List Point)))
  /-- Every folder of the source tree afterwards. -/
  | made (folders : List (List Point))
  /-- The build plan. -/
  | planned (plan : List (List Point × List (List Point)))

/-- A step of a scan: its name, what it printed, and what it found or the fault that
stopped it. -/
structure ScanStep where
  name : String
  printed : String
  outcome : Except Fault Finding

/-- What a request gets. -/
inductive Reply where
  /-- The answer of a generator. -/
  | answer (a : Answer)
  /-- The files written, by their names in the output folder, with their texts. -/
  | written (files : List (List Point × List Point))
  /-- The steps of a scan. -/
  | scanned (steps : List ScanStep)
  /-- The description read from a file, with what was printed. -/
  | description (value : Node) (printed : String)
  /-- The answers of a session, one per step. -/
  | session (answers : List (Except Fault Answer))
  /-- The fault that stopped the request. -/
  | failed (f : Fault)
  /-- The request was not run, for the given reason. -/
  | refused (reason : String)

/-- Texts in order. -/
def sortTexts (xs : List (List Point)) : List (List Point) := xs.mergeSort Text.pointsLe

/-- Pairs of a text and texts, in order of the first, each with its texts in order. -/
def sortPairs (xs : List (List Point × List (List Point))) :
    List (List Point × List (List Point)) :=
  (xs.map fun (k, vs) => (k, sortTexts vs)).mergeSort fun a b => Text.pointsLe a.1 b.1

/-- The operation that a request names, if it is a dictionary that names one. -/
def opOf (req : Node) : Option Node :=
  match req with
  | .dict es => es.lookup (lit "op")
  | _ => none

/-- The operation that a request names by a text of scalar values, if it is a dictionary
that names one so. -/
def opName (req : Node) : Option String :=
  match opOf req with
  | some (.text op) => Text.toString? op
  | _ => none

/-- The reason for refusing an operation that is not known, by the value that named it. -/
def unknownOp (op : Option Node) : String :=
  "unknown op " ++ (match op with | some v => String.ofList v.quoted | none => "None")

/-- The reason for refusing a scan path. -/
def badPath (v : Node) : String := "bad path " ++ String.ofList v.quoted

/-- The generator request that a request asks for, if its operation is one; a field that
it lacks is the request's fault. -/
def generatorRequest (req : Node) : Option (Except Fault Request) :=
  match opName req with
  | some op =>
    match op with
    | "type" => some (.typeName <$> req.field "type")
    | "template_params" => some (.templateParams <$> req.field "params")
    | "super_class" => some (.supers <$> req.field "supers")
    | "process_function" => some (do pure (.function (← req.field "name") (← req.field "values")))
    | "process_member" => some (do pure (.member (← req.field "name") (← req.field "type")))
    | "make_section" => some (do
        pure (.accessSection (← req.field "name") (← req.field "data") (← req.field "funcs").truthy))
    | "file_data" => some (.header <$> req.field "spec")
    | "file_name" => some (.fileName <$> req.field "string")
    | "clean_whitespace" => some (.tidy <$> req.field "text")
    | "init_base" => some (.ok .install)
    | _ => none
  | _ => none

/-- The operations that a session may not hold. -/
def notInSession : List String := ["scan", "write_out", "get_dict", "session"]

/-- The request that a session step asks for, or the reason to refuse the session: a step
that is no dictionary, or names an operation a session may not hold, is a bad step, and
one that names no operation the service knows is unknown. -/
def sessionStep (step : Node) : Except String (Except Fault Request) :=
  match step, opName step with
  | .dict _, some op =>
    if notInSession.contains op then .error "bad step"
    else match generatorRequest step with
      | some r => .ok r
      | none => .error (unknownOp (opOf step))
  | .dict _, none => .error (unknownOp (opOf step))
  | _, _ => .error "bad step"

/-- A session: the steps are the members of the field `steps`, run on a generator that
starts without tables. -/
def session (req : Node) : Reply :=
  match req.field "steps" >>= Node.members with
  | .error f => .failed f
  | .ok steps =>
    match steps.mapM sessionStep with
    | .error reason => .refused reason
    | .ok rs => .session (Generator.fresh.session requestDepth rs)

/-- Reading a description file: with `exists`, the file is first written with `text` (empty
when not given), which must be a text that a file can store. -/
def getDict (req : Node) : Reply :=
  match req.get "exists" .null, req.get "text" (.text []) with
  | .error f, _ => .failed f
  | .ok present, text =>
    if present.truthy then
      match text with
      | .ok (.text s) =>
        match Output.storable s with
        | .error f => .failed f
        | .ok () =>
          match Output.readDescription Output.installedLoad true descriptionPath s with
          | .ok (v, printed) => .description v printed
          | .error f => .failed f
      | .ok v => .failed (.writeNeedsText v.kind)
      | .error f => .failed f
    else
      match Output.readDescription Output.installedLoad false descriptionPath [] with
      | .ok (v, printed) => .description v printed
      | .error f => .failed f

/-- The class name of a description, when it is a dictionary that names its class by a text. -/
def textName (spec : Node) : Option (List Point) :=
  match spec with
  | .dict es =>
    match es.lookup (lit "name") with
    | some (.text s) => some s
    | _ => none
  | _ => none

/-- Writing a generated file into the empty output folder.  The description is read first;
a class named by a text that would lead out of the folder is refused before the data is
read or anything is written. -/
def writeOut (req : Node) : Reply :=
  match req.field "spec" with
  | .error f => .failed f
  | .ok spec =>
    if (textName spec).any Output.leavesFolder then
      .refused "name would write outside the output folder"
    else
      match req.field "data" >>= fun data => Output.write (Folder.system .empty) outputRoot data spec with
      | .ok files => .written files
      | .error f => .failed f

/-- A path of a scan request: a text without backslashes, of names between slashes, none
of them empty, `.` or `..`. -/
def scanPath (v : Node) : Except Reply Folder.Path :=
  match v with
  | .text s =>
    let names := Text.splitOn '/' s
    if s.contains (.char '\\') || names.any (fun n => n.isEmpty || n == lit "." || n == lit "..")
    then
      .error (.refused (badPath v))
    else .ok names
  | _ => .error (.refused (badPath v))

/-- Setting up an entry of a scan goes down its path by one nested call per name, each of
which opens two more inside it; the first is called with `setupDepth` calls open. -/
def descend (names : Folder.Path) : Except Fault Unit :=
  CallDepth.enter (setupDepth + names.length + 1)

/-- Adds to the system below `r` the entries that a scan request lists under `key`, in order:
files with the folders above them, or folders with their parents, each with `setupDepth`
calls open, once the path has been gone down. -/
def plant (req : Node) (key : String) (r : Folder.Root) (files : Bool) (t : Folder.Tree) :
    Except Reply Folder.Tree := do
  let listed ← (req.get key (.list []) >>= Node.members).mapError .failed
  listed.foldlM (fun t v => do
    let names ← scanPath v
    (descend names).mapError .failed
    (if files then t.ensureFile r names setupDepth else t.ensureFolder r names setupDepth).mapError
      .failed) t

/-- A scan: the description and source folders of the scratch folder are filled from the
request, the folders of both before the files of both; then the description tree is walked, its folders are made again in the source tree,
which is walked in turn to list them, and the build is planned.  Each step runs only when
the one before it has succeeded. -/
def scan (req : Node) : Reply :=
  let planted : Except Reply Folder.Tree := do
    let world ← plant req "yaml_dirs" yamlRoot false scanSystem
    let world ← plant req "source_dirs" sourceRoot false world
    let world ← plant req "yaml_files" yamlRoot true world
    plant req "source_files" sourceRoot true world
  match planted with
  | .error r => r
  | .ok world =>
    match (world.folder yamlRoot.path).descriptions stepDepth with
    | .error f => .scanned [⟨"walk", "", .error f⟩]
    | .ok found =>
      let table := Folder.scanStructure yamlText found
      let walked : ScanStep := ⟨"walk", "", .ok (.walked (sortPairs table))⟩
      let rep := world.repeatFolders sourceRoot (stepDepth + 1)
        (table.map fun e => Text.splitOn '/' e.1)
      let printed := String.join (rep.reports.map Folder.report)
      let listed : Except Fault (List Folder.Path) := match rep.stop with
        | some f => .error f
        | none => (rep.made.folder sourceRoot.path).folderPaths stepDepth
      match listed with
      | .error f => .scanned [walked, ⟨"make_dirs", printed, .error f⟩]
      | .ok folders =>
        .scanned [walked,
          ⟨"make_dirs", printed, .ok (.made (sortTexts (folders.map Folder.Path.text)))⟩,
          ⟨"build_list", "", (Folder.buildPlan yamlRoot.shown sourceRoot.shown table).map
            fun plan => .planned (sortPairs plan)⟩]

/-- The reply to a generator's answer or fault. -/
def ofAnswer : Except Fault Answer → Reply
  | .ok a => .answer a
  | .error f => .failed f

/-- The reply to a request. -/
def reply (req : Node) : Reply :=
  match req, opName req with
  | .dict _, some "scan" => scan req
  | .dict _, some "write_out" => writeOut req
  | .dict _, some "get_dict" => getDict req
  | .dict _, some "session" => session req
  | .dict _, _ =>
    match generatorRequest req with
    | some (.ok r) => ofAnswer (Generator.ready.answer requestDepth r)
    | some (.error f) => .failed f
    | none => .refused (unknownOp (opOf req))
  | _, _ => .refused "request is not an object"

end StubGen.Service
