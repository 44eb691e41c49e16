import TokenMint.Store.Database
import TokenMint.Text.Pieces

/-! # The disk

Databases live in files, and files in directories. A place on the disk is the row of names that lead
to it from the root; a path leads there from the root or from a home directory. -/

namespace TokenMint.Store

/-- The names on the way from the root. -/
abbrev Place := List String

/-- The bytes of a place as a path from the root. -/
def Place.size (p : Place) : Nat := p.foldl (fun n name ↦ n + 1 + name.utf8ByteSize) 0

/-- What can be at a place. -/
inductive Node where
  | directory
  | file (db : Database)
  /-- Something that is neither. -/
  | device
deriving DecidableEq, Repr

def Node.isDirectory : Node → Bool
  | directory => true
  | file _ | device => false

structure Disk where
  /-- The place at which paths begin that do not begin at the root. -/
  home : Place := []
  /-- What is at places. A directory that holds something need not be told. -/
  nodes : List (Place × Node) := []
deriving DecidableEq, Repr

/-- Why a directory cannot be made. -/
inductive Obstacle where
  /-- Something on the way is no directory. -/
  | notDirectory
  /-- Something that is no directory is there already. -/
  | taken
  | longName
  | badName
deriving DecidableEq, Repr

/-- The wording of an obstacle. -/
def Obstacle.message : Obstacle → String
  | .notDirectory => "Not a directory (os error 20)"
  | .taken => "File exists (os error 17)"
  | .longName => "File name too long (os error 36)"
  | .badName => "file name contained an unexpected NUL byte"

namespace Path

/-- Whether a path begins at the root. -/
def isAbsolute (path : String) : Bool := (Text.after? "/" path).isSome

/-- The pieces of a path without those at its end that lead nowhere. The first piece stays. -/
def trimEnd : List String → List String
  | [] => []
  | first :: rest => first :: (rest.reverse.dropWhile fun n ↦ n = "" ∨ n = ".").reverse

/-- The path to the directory that holds what a path leads to, if the path names one. -/
def parent? (path : String) : Option String :=
  match trimEnd (trimEnd (Text.split '/' path)).dropLast with
  | [] => none
  | [""] => if isAbsolute path then some "/" else none
  | names => some (Text.join "/" names)

/-- The longest name that fits into a directory, in bytes. -/
def longestName : Nat := 255

/-- The longest path that is followed, in bytes. -/
def longestPath : Nat := 4095

def hasBadName (path : String) : Bool := path.toList.contains '\x00'

end Path

namespace Disk

/-- What is at a place. Whatever has something below it is a directory. -/
def node? (d : Disk) (p : Place) : Option Node :=
  (d.nodes.lookup p).or
    (if p = [] ∨ d.nodes.any (p.isPrefixOf ·.1) then some .directory else none)

/-- Puts something at a place. The directories that lead to it need not be told any more. -/
def put (d : Disk) (p : Place) (n : Node) : Disk :=
  { d with nodes :=
      (p, n) :: d.nodes.filter fun x ↦ !(x.1 == p || (x.2.isDirectory && x.1.isPrefixOf p)) }

/-- Where a path begins. -/
def origin (d : Disk) (path : String) : Place := if Path.isAbsolute path then [] else d.home

/-- Makes the directories on a way, as far as they are not there. What has been made stays, even if
the way cannot be followed to its end. -/
def descend (made : Bool) (d : Disk) (p : Place) : List String → Except Obstacle Unit × Disk
  | [] => (.ok (), d)
  | name :: names =>
    if name = "" ∨ name = "." then d.descend made p names
    else if name = ".." then d.descend made p.dropLast names
    else if Path.longestName < name.utf8ByteSize then (.error .longName, d)
    else
      let p := p ++ [name]
      match d.node? p with
      | some .directory => d.descend made p names
      | some _ => (.error (if made ∨ names = [] then .taken else .notDirectory), d)
      | none => (d.put p .directory).descend true p names

/-- Makes a directory, with those on the way to it. -/
def makeDirectory (d : Disk) (path : String) : Except Obstacle Unit × Disk :=
  if Path.hasBadName path then (.error .badName, d)
  else if Path.longestPath < path.utf8ByteSize then (.error .longName, d)
  else d.descend false (d.origin path) (Text.split '/' path)

/-- The paths from a directory to the files below it, in order. -/
def filesBelow (d : Disk) (p : Place) : List String :=
  (d.nodes.filterMap fun (q, n) ↦
    match n, p.isPrefixOf? q with
    | .file _, some names => some (Text.join "/" names)
    | _, _ => none).mergeSort Tables.byBytes

@[simp] theorem node?_put (d : Disk) (p : Place) (n : Node) : (d.put p n).node? p = some n := by
  simp [put, node?]

/-- Leaving out what is elsewhere does not change what is found at a place. -/
theorem lookup_filter {p : Place} {keep : Place × Node → Bool} (h : ∀ n, keep (p, n))
    (l : List (Place × Node)) : (l.filter keep).lookup p = l.lookup p := by
  induction l with
  | nil => rfl
  | cons x l ih =>
    obtain ⟨q, n⟩ := x
    by_cases hq : q = p
    · subst hq
      simp [h n]
    · have miss : (p == q) = false := by simpa using Ne.symm hq
      rw [List.filter_cons]
      split
      · rw [List.lookup_cons, List.lookup_cons, miss, ih]
      · rw [List.lookup_cons, miss, ih]

/-- Putting something at a place leaves alone whatever does not lead there. -/
theorem node?_put_of_not_prefix (d : Disk) {p q : Place} (n : Node) (h : ¬ q <+: p) :
    (d.put p n).node? q = d.node? q := by
  have apart : q ≠ p := fun e ↦ h (e ▸ List.prefix_refl q)
  have miss : (q == p) = false := by simpa using apart
  have off : q.isPrefixOf p = false := by simpa [← List.isPrefixOf_iff_prefix] using h
  simp only [node?, put, List.lookup_cons, miss, List.any_cons, off, Bool.false_or,
    List.any_filter]
  rw [lookup_filter (by simp [apart, off])]
  congr 3
  refine propext ?_
  simp only [List.any_eq_true, Bool.and_eq_true]
  refine exists_congr fun x ↦ and_congr_right fun _ ↦ and_iff_right_of_imp fun below ↦ ?_
  have within := List.isPrefixOf_iff_prefix.1 below
  by_cases hx : x.1 <+: p
  · exact absurd (within.trans hx) h
  · have elsewhere : x.1 ≠ p := fun e ↦ hx (e ▸ List.prefix_refl _)
    have offx : x.1.isPrefixOf p = false := by simpa [← List.isPrefixOf_iff_prefix] using hx
    simp [elsewhere, offx]

end Disk

end TokenMint.Store
