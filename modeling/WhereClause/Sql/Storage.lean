import WhereClause.Files.Tree
import WhereClause.Sql.Connection
import WhereClause.Sql.Database

/-! Files that hold databases. -/

set_option autoImplicit false

namespace WhereClause.Sql

structure Storage where
  files : FileTree
  stored : Location → Option Database

namespace Storage

/-- Where the segments of a path lead. A step back undoes the segment in front of it, also
where that does not exist; only a step down from a file leads nowhere. -/
def follow (storage : Storage) : (start : Location) → List String → Option Location
  | location, [] => some location
  | location, segment :: rest =>
    if segment.isEmpty || segment == "." then storage.follow location rest
    else if segment == ".." then storage.follow location.dropLast rest
    else
      let next := location ++ [segment]
      let belowFile := storage.files.files.any fun (file, _) =>
        file.isPrefixOf next && file != next
      if FileTree.nameLimit < segment.utf8ByteSize || belowFile then none
      else storage.follow next rest

def openAt (storage : Storage) (options : ConnectOptions) (location : Location) :
    Except ConnectIssue Database :=
  let access := if options.readOnly || options.immutable then Access.readOnly else .full
  match storage.stored location with
  | some database => .ok { database with access }
  | none =>
    match storage.files.lookup location with
    | some (.file content) => .ok { access := if content.isEmpty then access else .foreign }
    | some .directory => .error (if options.readOnly then .unreadable else .unopened)
    | none =>
      match storage.files.lookup location.dropLast with
      | some .directory =>
        if options.create && !options.readOnly then .ok { access } else .error .unopened
      | _ => .error .unopened

/-- The path in a name of the form `file:path`, with a host that may only be this one. A name
without that form is a path itself. -/
def pathOf (name : String) : Except ConnectIssue String :=
  let decoded (path : List Char) : String :=
    Utf8.decodeLossy (Percent.bytes (path.takeWhile (!Url.endsPath ·)))
  let lead := "file:".toList
  if lead.isPrefixOf name.toList then
    match name.toList.drop lead.length with
    | '/' :: '/' :: rest =>
      let host := String.ofList (rest.takeWhile (· != '/'))
      if host.isEmpty || host == "localhost" then .ok (decoded (rest.dropWhile (· != '/')))
      else .error (.unknownHost host)
    | path => .ok (decoded path)
  else .ok name

/-- Open the database that options name. A name that is empty stands for a new database. -/
def openDatabase (storage : Storage) (options : ConnectOptions) : Except ConnectIssue Database := do
  if options.name.contains '\x00' then throw .nulInName
  let path ← if options.immutable || options.storage.isSome then pure options.name
    else pathOf options.name
  if let some kind := options.storage then
    unless ["unix", "unix-none", "unix-dotfile", "unix-excl", "memdb"].contains kind do
      throw (.unknownStorage kind)
  if options.inMemory || options.storage == some "memdb" || path.isEmpty || path == ":memory:" then
    return {}
  let start := if Path.isAbsolute path then [] else storage.files.current
  match storage.follow start (Path.segments path) with
  | some location => storage.openAt options location
  | none => throw .unopened

/-- The database at an address. Only files can be opened; a server gives no answer. -/
def connect (storage : Storage) (dialect : Dialect) (url : String) : Except ConnectIssue Database :=
  match dialect with
  | .sqlite => do storage.openDatabase (← ConnectOptions.ofUrl url)
  | _ => do
    let _ ← (Url.normalize url).mapError .address
    throw .noAnswer

end Storage

end WhereClause.Sql
