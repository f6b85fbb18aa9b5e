import SimSweep.Kernel.Fault
import SimSweep.Text.Layout

/-! # Files

    The files of the simulated system. Every file is a *node* with a number;
    directories give names to nodes, so that a file may have several names or, while
    it is open, none. Nothing outside is ever read or written.
-/

namespace SimSweep.Kernel

/-- A device. -/
inductive Device where
  /-- It takes everything and gives nothing. -/
  | null
  /-- It takes everything and gives zeros without end. -/
  | zero
  /-- It gives zeros without end, but has no room for anything. -/
  | full
  /-- It gives bytes that look random, without end. -/
  | random
  /-- It cannot be opened without a terminal. -/
  | terminal
  deriving DecidableEq

/-- What a file holds. -/
inductive Content where
  | directory (entries : List (String × Nat)) (above : Nat)
  | regular (bytes : ByteArray)
  | link (target : String)
  | device (device : Device)
  | pipe (id : Nat)
  /-- A program that comes with the system. -/
  | program (name : String)
  /-- The file that an open descriptor of the looking process leads to. -/
  | descriptor (number : Nat)

/-- A file. -/
structure Node where
  content : Content
  /-- The permission bits. -/
  mode : Nat
  /-- When the contents were last changed, in microseconds. -/
  modified : Int := 0

/-- All files; the number of a node is its place. -/
structure Files where
  nodes : Array Node

/-- A place in a directory, with the node that is there. -/
structure Place where
  directory : Nat
  name : String
  node : Option Nat

namespace Content

/-- Whether it is a directory. -/
def isDirectory : Content → Bool
  | .directory _ _ => true
  | _ => false

/-- The names in a directory. -/
def entries : Content → List (String × Nat)
  | .directory entries _ => entries
  | _ => []

/-- The directory above. -/
def above : Content → Nat
  | .directory _ above => above
  | _ => 0

end Content

namespace Files

/-! ## Section 1: Paths -/

/-- The number of the topmost directory. -/
def root : Nat := 0

/-- The node of a number. -/
def node? (files : Files) (id : Nat) : Option Node := files.nodes[id]?

/-- What the node of a number holds. -/
def contentOf (files : Files) (id : Nat) : Content :=
  match files.nodes[id]? with
  | some node => node.content
  | none => .regular .empty

/-- The longest name that a file may have. -/
def nameLimit : Nat := 255

/-- The longest path. -/
def pathLimit : Nat := 4095

/-- How many links may be followed on the way. -/
def linkLimit : Nat := 40

/-- The names of a path. -/
def namesOf (path : String) : List String := (splitAt '/' path.toList).map String.ofList

/-- Follows names from a directory. The first number bounds the names, the second the
    links; a link at the end is followed if wanted. -/
def walk (files : Files) (follows : Bool) : Nat → Nat → Nat → List String → Except Fault Place
  | 0, _, _, _ => .error .tooManyLinks
  | _, _, here, [] => .ok ⟨here, ".", some here⟩
  | fuel + 1, links, here, name :: rest =>
    match files.contentOf here with
    | .directory entries above =>
      if name = "" ∨ name = "." then
        if rest.isEmpty then .ok ⟨here, ".", some here⟩
        else files.walk follows fuel links here rest
      else if name = ".." then
        if rest.isEmpty then .ok ⟨above, "..", some above⟩
        else files.walk follows fuel links above rest
      else if nameLimit < name.length then .error .nameTooLong
      else match entries.lookup name with
        | none => if rest.all (·.isEmpty) then .ok ⟨here, name, none⟩ else .error .notFound
        | some id =>
          match files.contentOf id with
          | .link target =>
            if rest.isEmpty ∧ ¬ follows then .ok ⟨here, name, some id⟩
            else match links with
              | 0 => .error .tooManyLinks
              | links + 1 =>
                let start := if target.startsWith "/" then root else here
                files.walk follows fuel links start (namesOf target ++ rest)
          | _ =>
            if rest.isEmpty then .ok ⟨here, name, some id⟩
            else files.walk follows fuel links id rest
    | _ => .error .notDirectory

/-- The place that a path names, seen from a directory. There need not be a file in
    it. -/
def resolve (files : Files) (here : Nat) (path : String) (follows : Bool := true) :
    Except Fault Place :=
  if path.isEmpty then .error .notFound
  else if pathLimit < path.length then .error .nameTooLong
  else
    let names := namesOf path
    files.walk follows (names.length + 50 * pathLimit) linkLimit
      (if path.startsWith "/" then root else here) names

/-- The number of the node that a path names, seen from a directory. -/
def find (files : Files) (here : Nat) (path : String) (follows : Bool := true) :
    Except Fault Nat := do
  match (← files.resolve here path follows).node with
  | some id => .ok id
  | none => .error .notFound

/-- The path of a directory from the root; the number bounds its depth. -/
def ascend (files : Files) : Nat → Nat → List String → List String
  | 0, _, names => names
  | fuel + 1, id, names =>
    if id = root then names
    else
      let above := (files.contentOf id).above
      match (files.contentOf above).entries.find? fun (_, n) => n == id with
      | some (name, _) => files.ascend fuel above (name :: names)
      | none => names

/-- The path of a directory from the root. -/
def pathOf (files : Files) (id : Nat) : String :=
  "/" ++ "/".intercalate (files.ascend pathLimit id [])

/-! ## Section 2: Changes -/

/-- Changes a node. -/
def change (files : Files) (id : Nat) (f : Node → Node) : Files :=
  { files with nodes := files.nodes.modify id f }

/-- Changes the names in a directory. -/
def changeEntries (files : Files) (directory : Nat)
    (f : List (String × Nat) → List (String × Nat)) : Files :=
  files.change directory fun node => match node.content with
    | .directory entries above => { node with content := .directory (f entries) above }
    | _ => node

/-- Gives a name in a directory to a node. -/
def enter (files : Files) (directory : Nat) (name : String) (id : Nat) : Files :=
  files.changeEntries directory fun entries =>
    (entries.filter fun (n, _) => n != name) ++ [(name, id)]

/-- Takes a name out of a directory. -/
def leave (files : Files) (directory : Nat) (name : String) : Files :=
  files.changeEntries directory fun entries => entries.filter fun (n, _) => n != name

/-- Makes a node under a name in a directory. -/
def make (files : Files) (directory : Nat) (name : String) (node : Node) : Files × Nat :=
  let id := files.nodes.size
  (Files.enter { files with nodes := files.nodes.push node } directory name id, id)

/-- How many names a node has. -/
def namesTo (files : Files) (id : Nat) : Nat :=
  files.nodes.foldl (fun n node => n + node.content.entries.countP fun (_, k) => k == id) 0

/-! ## Section 3: What is always there -/

/-- Puts a file at an absolute path whose directories are there. -/
def install (files : Files) (path : String) (content : Content) (mode : Nat) : Files :=
  match files.resolve root path false with
  | .ok place =>
    match place.node with
    | some _ => files
    | none =>
      let content := match content with
        | .directory entries _ => .directory entries place.directory
        | other => other
      (files.make place.directory place.name { content, mode }).1
  | .error _ => files

/-- The directories that are always there. -/
def directories : List String :=
  ["/boot", "/dev", "/dev/pts", "/dev/shm", "/etc", "/home", "/media", "/mnt", "/opt", "/proc",
   "/proc/self", "/proc/self/fd", "/root", "/run", "/srv", "/sys", "/usr", "/usr/bin",
   "/usr/games", "/usr/include", "/usr/lib", "/usr/libexec", "/usr/local", "/usr/local/bin",
   "/usr/local/lib", "/usr/local/sbin", "/usr/sbin", "/usr/share", "/usr/src", "/var",
   "/var/lib", "/var/log", "/var/run"]

/-- The directories that everyone may write to. -/
def sharedDirectories : List String := ["/tmp", "/var/tmp"]

/-- The links that are always there. -/
def links : List (String × String) :=
  [("/bin", "usr/bin"), ("/sbin", "usr/sbin"), ("/lib", "usr/lib"),
   ("/dev/fd", "/proc/self/fd"), ("/dev/stdin", "/proc/self/fd/0"),
   ("/dev/stdout", "/proc/self/fd/1"), ("/dev/stderr", "/proc/self/fd/2")]

/-- The devices that are always there. -/
def devices : List (String × Device) :=
  [("/dev/null", .null), ("/dev/zero", .zero), ("/dev/full", .full), ("/dev/random", .random),
   ("/dev/urandom", .random), ("/dev/tty", .terminal)]

/-- The files with contents that are always there. -/
def documents : List (String × String) :=
  [("/etc/passwd", "root:x:0:0:root:/root:/bin/bash\n"), ("/etc/group", "root:x:0:\n"),
   ("/etc/hostname", "localhost\n"), ("/etc/hosts", "127.0.0.1\tlocalhost\n")]

/-- The files of a system with some programs. -/
def initial (programs : List String) : Files :=
  let start : Files := ⟨#[{ content := .directory [] root, mode := 0o755 }]⟩
  let files := directories.foldl (fun f d => f.install d (.directory [] root) 0o755) start
  let files := sharedDirectories.foldl (fun f d => f.install d (.directory [] root) 0o1777) files
  let files := links.foldl (fun f (path, target) => f.install path (.link target) 0o777) files
  let files := devices.foldl (fun f (path, d) => f.install path (.device d) 0o666) files
  let files := documents.foldl (fun f (path, s) => f.install path (.regular s.toUTF8) 0o644) files
  let files := (List.range 64).foldl
    (fun f n => f.install ("/proc/self/fd/" ++ toString n) (.descriptor n) 0o700) files
  programs.foldl (fun f name => f.install ("/usr/bin/" ++ name) (.program name) 0o755) files

end Files

end SimSweep.Kernel
