import NestedShell.Host.Script.Expand

/-! Redirections: where the descriptors of commands lead. -/
namespace NestedShell.Host.Script

/-- A redirection whose word has been expanded. -/
inductive Target where
  | file (descriptor : Nat) (access : Access) (path : String)
  | copy (descriptor : Nat) (origin : Option Nat)
  | document (descriptor index : Nat)

namespace Target

def descriptor : Target → Nat
  | file d _ _ | copy d _ | document d _ => d

end Target

def expandRedirect (capture : Command → Act String) : Redirect → Act Target
  | .file d access name => return .file d access (← expandText capture { tilde := true } name)
  | .document d index => return .document d index
  | .copy d origin => do
    match (← expandText capture { tilde := true } origin).toList with
    | ['-'] => return .copy d none
    | [c] =>
      if c.isDigit then return .copy d (some (c.toNat - '0'.toNat))
      else fail "Syntax error: Bad fd number"
    | _ => fail "Syntax error: Bad fd number"

/-- What a message says of a file that cannot be opened, or not be made. -/
def openText (isMade : Bool) (e : SystemError) : String :=
  if e = .noEntry || e = .notDirectory then
    if isMade then "Directory nonexistent" else "No such file"
  else e.text

/-- Makes a stream. -/
def addStream (stream : Stream) : Act Nat := do
  let s ← get
  let (id, world) := s.world.add stream
  set { s with world }
  return id

/-- Opens a device: a descriptor once more, or a place where nothing is. -/
def openDevice (s : Shell) : Device → Except SystemError (Nat ⊕ Stream)
  | .null => .ok (.inr .null)
  | .full => .ok (.inr .full)
  | .descriptor n =>
    match s.stream? n with
    | some stream => .ok (.inl stream)
    | none => .error .noEntry

/-- Opens a file that is there, or makes it. -/
def openPlace (s : Shell) (access : Access) (path : String) :
    Except SystemError (World × (Nat ⊕ Stream)) := do
  let there ←
    if access = .read then resolve s.world.tree s.directory path
    else place s.world.tree s.directory path
  match s.world.tree there with
  | some (.device d) => return (s.world, ← openDevice s d)
  | some .directory => if access = .read then return (s.world, .inr .null) else throw .isDirectory
  | some (.program _) => if access = .read then return (s.world, .inr .null) else throw .denied
  | found =>
    let isKept := found.isSome && [.read, .append, .both].contains access
    let world := if isKept then s.world else s.world.setFile there ""
    return (world, .inr (.file there 0 (access = .append)))

/-- Opens a file; the answer is its stream. -/
def openFile (access : Access) (path : String) : Act Nat := do
  let s ← get
  let isMade := access ≠ .read
  let refuse (text : String) : Act Nat :=
    fail ("cannot " ++ (if isMade then "create " else "open ") ++ path ++ ": " ++ text)
  let isGuarded := match access, (s.world.tree.find s.directory path).toOption with
    | .write, some (.file _) => s.has 'C'
    | _, _ => false
  if isGuarded then refuse "File exists"
  else match openPlace s access path with
    | .error e => refuse (openText isMade e)
    | .ok (world, opened) =>
      set { s with world }
      match opened with
      | .inl id => return id
      | .inr stream => addStream stream

/-- Keeps where a descriptor leads, unless it is kept already, for the redirections that are to end
first. -/
def keepDescriptor (descriptor : Nat) : Act Unit := modify fun s =>
  match s.redirected with
  | [] => s
  | kept :: outer =>
    if kept.any (·.1 = descriptor) then s
    else { s with redirected := ((descriptor, s.stream? descriptor) :: kept) :: outer }

def followTarget (capture : Command → Act String) (keeps : Bool) (target : Target) :
    Act Unit := do
  let put (stream : Option Nat) : Act Unit := do
    if keeps then keepDescriptor target.descriptor
    modify (·.setDescriptor target.descriptor stream)
  let s ← get
  match target with
  | .file _ access path => put (some (← openFile access path))
  | .copy _ none => put none
  | .copy d (some n) =>
    if n = d then return
    match s.stream? n with
    | some stream => put (some stream)
    | none =>
      if keeps then keepDescriptor d
      fail (toString n ++ ": Bad file descriptor")
  | .document _ index =>
    let text ← expandText capture { isQuoted := true } ((s.documents.lookup index).getD [])
    put (some (← addStream (.source text.toList)))

/-- Follows redirections until they are ended. -/
def beginRedirects (capture : Command → Act String) (targets : List Target) : Act Unit := do
  unless targets.isEmpty do
    modify fun s => { s with redirected := [] :: s.redirected }
    targets.forM (followTarget capture true)

/-- The status of redirections that may fail. -/
def tryRedirects (capture : Command → Act String) (targets : List Target) : Act Nat := do
  match ← attempt (beginRedirects capture targets) with
  | .ok () => return 0
  | .error .error => return 2
  | .error stop => throw stop

/-- Lets descriptors lead where they led before, unless they are to stay. -/
def restored (isLasting : Bool) (kept : List (Nat × Option Nat)) (s : Shell) : Shell :=
  if isLasting then s
  else kept.foldl (fun s (descriptor, stream) => s.setDescriptor descriptor stream) s

def endRedirects (isLasting : Bool) : Act Unit := modify fun s =>
  match s.redirected with
  | [] => s
  | kept :: outer => restored isLasting kept { s with redirected := outer }

/-- Ends all redirections but the first `depth` of them. -/
def unwindRedirects (depth : Nat) : Act Unit := modify fun s =>
  let ending := s.redirected.take (s.redirected.length - depth)
  ending.foldl (fun s kept => restored false kept s)
    { s with redirected := s.redirected.drop ending.length }

end NestedShell.Host.Script
