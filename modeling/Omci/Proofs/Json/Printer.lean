import Omci.Json.Printer
import Omci.Json.Reader

/-!
# What is written, as characters

Writing threads the text so far through the tree, so that no piece is copied
twice. The reader works on characters. The two meet in the characters that a
tree takes by itself: whatever the text so far, writing appends them.
-/

namespace Omci.Json

mutual

/-- The characters of a tree that stands inside `depth` brackets. -/
def indented (depth : Nat) : Json → List Char
  | .null | .unreadable => "null".toList
  | .bool true => "true".toList
  | .bool false => "false".toList
  | .int n => (integer n).toList
  | .real x => x.text.toList
  | .str s => (quote s).toList
  | .arr [] => ['[', ']']
  | .arr (item :: rest) =>
    '[' :: (lineBreak (depth + 1)).toList ++ indented (depth + 1) item ++
      indentedItems (depth + 1) rest ++ (lineBreak depth).toList ++ [']']
  | .obj [] => ['\x7b', '\x7d']
  | .obj ((name, member) :: rest) =>
    '\x7b' :: (lineBreak (depth + 1)).toList ++ (quote name.text).toList ++ [':', ' '] ++
      indented (depth + 1) member ++ indentedMembers (depth + 1) rest ++
      (lineBreak depth).toList ++ ['\x7d']

def indentedItems (depth : Nat) : List Json → List Char
  | [] => []
  | item :: rest =>
    ',' :: (lineBreak depth).toList ++ indented depth item ++ indentedItems depth rest

def indentedMembers (depth : Nat) : List (Name × Json) → List Char
  | [] => []
  | (name, member) :: rest =>
    ',' :: (lineBreak depth).toList ++ (quote name.text).toList ++ [':', ' '] ++
      indented depth member ++ indentedMembers depth rest

end

mutual

theorem toList_writeIndented (out : String) (depth : Nat) :
    ∀ tree : Json, (writeIndented out depth tree).toList = out.toList ++ indented depth tree
  | .null | .unreadable | .bool true | .bool false | .int _ | .real _ | .str _ => by
    simp [writeIndented, indented]
  | .arr [] | .obj [] => by simp [writeIndented, indented]
  | .arr (item :: rest) => by
    simp only [writeIndented, indented, String.toList_append, toList_writeItems _ _ rest,
      toList_writeIndented _ _ item]
    simp [List.append_assoc]
  | .obj ((name, member) :: rest) => by
    simp only [writeIndented, indented, String.toList_append, toList_writeMembers _ _ rest,
      toList_writeIndented _ _ member]
    simp [List.append_assoc]

theorem toList_writeItems (out : String) (depth : Nat) :
    ∀ items : List Json,
      (writeItems out depth items).toList = out.toList ++ indentedItems depth items
  | [] => by simp [writeItems, indentedItems]
  | item :: rest => by
    simp only [writeItems, indentedItems, String.toList_append, toList_writeItems _ _ rest,
      toList_writeIndented _ _ item]
    simp [List.append_assoc]

theorem toList_writeMembers (out : String) (depth : Nat) :
    ∀ members : List (Name × Json),
      (writeMembers out depth members).toList = out.toList ++ indentedMembers depth members
  | [] => by simp [writeMembers, indentedMembers]
  | (name, member) :: rest => by
    simp only [writeMembers, indentedMembers, String.toList_append,
      toList_writeMembers _ _ rest, toList_writeIndented _ _ member]
    simp [List.append_assoc]

end

theorem toList_fileText (tree : Json) :
    tree.fileText.toList = indented 0 tree ++ ['\n'] := by
  rw [fileText, String.toList_append, toList_writeIndented]
  rfl

/-- The characters read as the tree, with nothing but blanks behind. -/
def readsAs (tree : Json) (s : List Char) : Bool :=
  match readValue (s.length + 1) 0 s with
  | .ok (found, rest) => found = tree && (skipSpace rest).isEmpty
  | .error _ => false

theorem read_of_readsAs {text : String} {tree : Json}
    (h : readsAs tree text.toList = true) :
    read text = .whole tree := by
  unfold readsAs at h
  rw [read]
  split at h
  · next found rest hread =>
    obtain ⟨htree, hrest⟩ := Bool.and_eq_true_iff.1 h
    obtain rfl := of_decide_eq_true htree
    rw [hread]
    exact if_pos hrest
  · cases h

theorem read_fileText {tree : Json} (h : readsAs tree (indented 0 tree ++ ['\n']) = true) :
    read tree.fileText = .whole tree := by
  rw [← toList_fileText] at h
  exact read_of_readsAs h

end Omci.Json
