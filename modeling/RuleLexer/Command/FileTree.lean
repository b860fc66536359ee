import RuleLexer.Command.Run

/-!
# File trees

A tree of files in memory, by which a run can be followed without a disk. A path is resolved from
the root of the tree, component by component. Above the root there are directories in which
nothing is found but their own parents.
-/

namespace RuleLexer

inductive FileNode where
  | directory
  | file (content : ByteArray)

def decodeUtf8 (content : ByteArray) : Except FileError Text :=
  match String.fromUTF8? content with
  | some s => .ok s.toList
  | none => .error .notUtf8

/-- The nodes of a tree with the components of their paths. The directories above a node need not
be listed. -/
structure FileTree where
  nodes : List (List Text × FileNode)

namespace FileTree

/-- The components of a path, with an empty one before a leading and after a trailing slash. -/
def components : Text → List Text
  | [] => [[]]
  | c :: rest =>
      if c = '/' then [] :: components rest
      else match components rest with
        | [] => [[c]]
        | part :: parts => (c :: part) :: parts

/-- A component that stays where it is. -/
def staysPut (part : Text) : Bool := part.isEmpty || part == ['.']

def empty : FileTree := ⟨[]⟩

def insert (tree : FileTree) (path : Text) (node : FileNode) : FileTree :=
  ⟨((components path).filter (!staysPut ·), node) :: tree.nodes⟩

def node? (tree : FileTree) (place : List Text) : Option FileNode :=
  if place.isEmpty then some .directory
  else match tree.nodes.lookup place with
    | some node => some node
    | none => if tree.nodes.any fun node => place.isPrefixOf node.1 then some .directory else none

/-- Follows the components of a path from a place above the root. -/
def resolveAbove : List Text → Except FileError FileNode
  | [] => .ok .directory
  | part :: rest =>
      if staysPut part ∨ part = ['.', '.'] then resolveAbove rest else .error .notFound

/-- Follows the components of a path from a place. Only a directory can be gone through. -/
def resolve (tree : FileTree) (place : List Text) : List Text → Except FileError FileNode
  | [] =>
      match tree.node? place with
      | some node => .ok node
      | none => .error .notFound
  | part :: rest =>
      match tree.node? place with
      | none => .error .notFound
      | some (.file _) => .error .notDirectory
      | some .directory =>
          if staysPut part then resolve tree place rest
          else if part = ['.', '.'] then
            if place.isEmpty then resolveAbove rest else resolve tree place.dropLast rest
          else resolve tree (place ++ [part]) rest

/-- What a path leads to. An empty path leads nowhere. -/
def find (tree : FileTree) (path : Text) : Except FileError FileNode :=
  match path with
  | [] => .error .notFound
  | '/' :: rest => resolveAbove (components rest)
  | _ => tree.resolve [] (components path)

def read (tree : FileTree) : FileReader := fun path =>
  match tree.find path with
  | .error error => .error error
  | .ok .directory => .error .isDirectory
  | .ok (.file content) => decodeUtf8 content

end FileTree

end RuleLexer
