import FeatureScript.Pattern.Footprint.Basic

/-!
# FeatureScript.Pattern.Footprint.Trie

The room of a choice among texts: a tree of their bytes, in which texts share what they begin with.
The order of the texts is kept: where one of them ends inside the tree, those that come after it are
not joined with those before it.
-/

namespace FeatureScript
namespace Pattern

/-- The texts at a node, in groups: an empty text ends a group. The first group is not ended twice
while it is empty. -/
def endings : List (List Nat) → List (List (List Nat))
  | [] => [[]]
  | [] :: rest => [] :: endings rest
  | text :: rest =>
    match endings rest with
    | group :: groups => (text :: group) :: groups
    | [] => [[text]]

/-- What the texts with this first byte go on with. -/
def after (byte : Nat) (texts : List (List Nat)) : List (List Nat) :=
  texts.filterMap fun
    | b :: rest => if b = byte then some rest else none
    | [] => none

/-- Adds the node of a tree where these texts go on, and the nodes below it. A node where all texts
have ended takes no room. `fuel` is more than the length of each text. -/
def Footprint.trie : (fuel : Nat) → List (List Nat) → Footprint → Footprint
  | 0, _, f => f
  | fuel + 1, texts, f =>
    if texts.all List.isEmpty then f
    else
      let groups := endings (if texts.head? = some [] then [] :: texts.dropWhile List.isEmpty
        else texts)
      let f := groups.foldl
        (fun f group =>
          let bytes := (group.filterMap List.head?).eraseDups
          let f := bytes.foldl (fun f byte => trie fuel (after byte group) f) f
          match bytes.length with
          | 0 => f
          | 1 => f.add 1 1 0
          | n => f.add 1 1 n)
        f
      f.add 1 (groups.length - 1) 0

/-- Adds a choice among texts. The state it leaves to comes first. -/
def Footprint.texts (f : Footprint) (texts : List (List Nat)) : Option Footprint :=
  (trie ((texts.map List.length).foldl Nat.max 0 + 1) texts (f.add 1 0 0)).checked

end Pattern
end FeatureScript
