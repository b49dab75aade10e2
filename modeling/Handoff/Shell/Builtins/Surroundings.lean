import Handoff.Shell.Builtins.Call

/-! Commands about what a process has: its folder, its rights, its limits and its time. -/

namespace Handoff.Shell.Call

open Handoff.Host

/-! ### The folder -/

/-- The folder that a path leads to from a place, as the shell names it. -/
private def placeOf (place path : Text) : Text :=
  let isDouble (t : Text) : Bool := t.take 2 = ['/', '/'] && t[2]? ≠ some '/'
  let root : Text :=
    if isDouble (if path.head? = some '/' then path else place) then ['/', '/'] else ['/']
  let parts (t : Text) : List Text :=
    ((components t.bytes).map Bytes.octets).filter (· ≠ [])
  let start := if path.head? = some '/' then [] else parts place
  let all := (parts path).foldl
    (fun before part =>
      if part = ['.'] then before
      else if part = ['.', '.'] then before.dropLast
      else before ++ [part])
    start
  root ++ (List.intercalate ['/'] all)

/-- The path of a folder. -/
def pathOfFolder (folder : Location) : Text :=
  if folder = [] then ['/'] else folder.flatMap fun name => '/' :: name.toList

private def isFolder (s : Session) (path : Text) : Option Location :=
  match s.machine.resolve s.folder path.bytes with
  | .ok (.folder folder) => some folder
  | _ => none

/-- Goes to a folder; says whether that is possible. -/
private def enter (isPhysical : Bool) (path : Text) : Run Bool := do
  let s ← get
  let place := placeOf s.place path
  match isFolder s (if isPhysical then path else place) with
  | none => return false
  | some folder =>
    let place := if isPhysical then pathOfFolder folder else place
    setBinding "OLDPWD" (some s.place) true false
    setBinding "PWD" (some place) true false
    modify fun s => { s with folder, place, hashed := [] }
    return true

/-- Whether a path is not searched for in the folders that are given for that. -/
private def isDirect (path : Text) : Bool :=
  path.head? = some '/' || path = ['.'] || path = ['.', '.'] || ['.', '/'].isPrefixOf path ||
    ['.', '.', '/'].isPrefixOf path

def changeFolder (call : Call) : Run Nat := do
  let (options, args) ← call.options "LP"
  let isPhysical := options.getLast?.any (·.1 = 'P')
  let s ← get
  let (path, isShown) :=
    match args with
    | [] => ((s.value? "HOME").getD [], false)
    | ['-'] :: _ => ((s.value? "OLDPWD").getD [], true)
    | path :: _ => (path, false)
  let tryPath (shown : Bool) (target : Text) : Run Nat := do
    if ← enter isPhysical target then
      if shown then putLine (← get).place
      return 0
    failWith ("can't cd to ".toList ++ path)
  if isDirect path then return ← tryPath isShown path
  let path : Text := if path = [] then ['.'] else path
  match s.value? "CDPATH" with
  | some folders =>
    let candidates := (Image.searchFolders folders.bytes).map fun folder =>
      (folder, (Image.pathIn folder path.bytes).octets)
    match candidates.find? fun (_, target) => (isFolder s target).isSome with
    | some (folder, target) => tryPath (isShown || folder ≠ []) target
    | none => tryPath isShown path
  | none => tryPath isShown path

def printFolder (call : Call) : Run Nat := do
  let (options, _) ← call.options "LP"
  let s ← get
  putLine (if options.getLast?.any (·.1 = 'P') then pathOfFolder s.folder else s.place)
  return 0

/-! ### Rights and limits -/

private def octal (n : Nat) : Text :=
  let ds := Nat.toDigits 8 n
  List.replicate (4 - ds.length) '0' ++ ds

private def hasRight (mask shift bit : Nat) : Bool := ((mask >>> shift) &&& bit) = 0

private def symbolic (mask : Nat) : Text :=
  let rights (shift : Nat) : Text :=
    (if hasRight mask shift 4 then ['r'] else []) ++
      (if hasRight mask shift 2 then ['w'] else []) ++
        (if hasRight mask shift 1 then ['x'] else [])
  'u' :: '=' :: rights 6 ++ ",g=".toList ++ rights 3 ++ ",o=".toList ++ rights 0

/-- A set of rights for each one that a letter stands for. -/
private def placesOf (c : Char) : Nat :=
  match c with
  | 'u' => 64
  | 'g' => 8
  | 'o' => 1
  | _ => 73

/-- The rights that a letter stands for, where some rights are given already. -/
private def rightsOf (rights : Nat) (c : Char) : Nat :=
  match c with
  | 'r' => 4
  | 'w' => 2
  | 'x' => 1
  | 'u' => rights >>> 6
  | 'g' => rights >>> 3
  | 'o' => rights
  | 'X' => if rights &&& 73 = 0 then 0 else 1
  | _ => 0

/-- Changes rights as a symbolic mode says; none if it cannot be understood. -/
private def changeRights (rights : Nat) : (fuel places new : Nat) → Text → Option Nat
  | 0, _, new, _ | _, _, new, [] => some new
  | fuel + 1, places, new, text =>
    let who := text.takeWhile ['u', 'g', 'o', 'a'].contains
    let places := who.foldl (fun places c => places ||| placesOf c) places
    let places := if places = 0 then placesOf 'a' else places
    match text.drop who.length with
    | [] => some new
    | op :: rest =>
      let given := rest.takeWhile ['r', 'w', 'x', 'u', 'g', 'o', 'X', 's'].contains
      let value := (given.foldl (fun value c => value ||| rightsOf rights c) 0 &&& 7) * places
      let new? :=
        match op with
        | '=' => some ((new &&& (511 - places * 7)) ||| value)
        | '+' => some (new ||| value)
        | '-' => some (new &&& (511 - value))
        | _ => none
      match new?, rest.drop given.length with
      | none, _ => none
      | some new, [] => some new
      | some new, ',' :: rest => changeRights rights fuel 0 new rest
      | some new, c :: rest =>
        if ['=', '+', '-'].contains c then changeRights rights fuel places new (c :: rest) else none

def umask (call : Call) : Run Nat := do
  let (options, args) ← call.options "S"
  let s ← get
  match args with
  | [] => putLine (if options.isEmpty then octal s.mask else symbolic s.mask)
  | arg :: _ =>
    if arg.head?.any Char.isDigit then
      if arg.any fun c => c < '0' || '7' < c then failWith (illegalNumber arg)
      let mask := arg.foldl (fun n c => n * 8 + (c.toNat - '0'.toNat)) 0
      set { s with mask := mask % 512 }
    else
      let rights := 511 - s.mask
      match changeRights rights (arg.length + 1) 0 rights arg with
      | some rights => set { s with mask := 511 - rights }
      | none => failWith ("Illegal mode: ".toList ++ arg)
  return 0

/-- What is limited, by the letters of options, with the limits that there are at first. -/
private def limitTable : List (Char × String × Option Nat) :=
  [('t', "time(seconds)", none), ('f', "file(blocks)", none), ('d', "data(kbytes)", none),
   ('s', "stack(kbytes)", some 8192), ('c', "coredump(blocks)", some 0),
   ('m', "memory(kbytes)", none), ('l', "locked memory(kbytes)", some 8192),
   ('p', "process", none), ('n', "nofiles", some 1048576), ('v', "vmemory(kbytes)", none),
   ('w', "locks", none), ('r', "rtprio", some 0)]

private def limitOf (s : Session) (letter : Char) (usual : Option Nat) : Option Nat :=
  (s.limits.lookup letter).getD usual

private def showLimit (limit : Option Nat) : Text :=
  match limit with
  | some n => (toString n).toList
  | none => "unlimited".toList

private def limitOfText (text : Text) : Run (Option Nat) := do
  if text = "unlimited".toList then return none
  if text.all Char.isDigit then
    return some (text.foldl (fun n c => n * 10 + (c.toNat - '0'.toNat)) 0)
  failString "bad number"

/-- Shows and sets limits, which are not enforced. -/
def ulimit (call : Call) : Run Nat := do
  let (options, args) ← call.options "HSatfdscmlpnvwr"
  let letters := options.map (·.1)
  let showsAll := letters.contains 'a'
  let what := ((letters.filter fun c => !(['H', 'S', 'a'].contains c)).getLast?).getD 'f'
  let s ← get
  match args with
  | [] =>
    if showsAll then
      limitTable.forM fun (letter, name, usual) => do
        let name := name.toList
        put (name ++ List.replicate (20 - name.length) ' ' ++ [' '])
        putLine (showLimit (limitOf s letter usual))
    else
      let usual := (limitTable.lookup what).bind (·.2)
      putLine (showLimit (limitOf s what usual))
  | value :: rest =>
    if showsAll || !rest.isEmpty then failString "too many arguments"
    let limit ← limitOfText value
    set { s with limits := (what, limit) :: s.limits.filter (·.1 ≠ what) }
  return 0

def times (_ : Call) : Run Nat := do
  putString "0m0.000000s 0m0.000000s\n0m0.000000s 0m0.000000s\n"
  return 0

end Handoff.Shell.Call
