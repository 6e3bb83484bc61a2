/-!
# Parentheses

An item begins behind an opening parenthesis and runs up to the next closing one, or to
the end of the text; opening parentheses inside an item belong to it. A group is an item
together with both of its parentheses.
-/

namespace Omci.Text

mutual

/-- The items of a text, in order. -/
def parenItems : List Char → List (List Char)
  | [] => []
  | c :: rest =>
    if c = '(' then
      let (item, items) := parenItemsWithin rest
      item :: items
    else
      parenItems rest

/-- The rest of the item that the text begins in, and the items behind it. -/
def parenItemsWithin : List Char → List Char × List (List Char)
  | [] => ([], [])
  | c :: rest =>
    if c = ')' then
      ([], parenItems rest)
    else
      let (item, items) := parenItemsWithin rest
      (c :: item, items)

end

/-- Replaces groups, after passing over the first `skip` characters, which an earlier
group covers. -/
def replaceGroupsFrom (replacement : List Char) : Nat → List Char → List Char
  | _, [] => []
  | skip + 1, _ :: rest => replaceGroupsFrom replacement skip rest
  | 0, c :: rest =>
    if c = '(' ∧ ')' ∈ rest then
      replacement ++ replaceGroupsFrom replacement
        ((rest.takeWhile (· ≠ ')')).length + 1) rest
    else
      c :: replaceGroupsFrom replacement 0 rest

/-- Every group becomes the replacement; an opening parenthesis that is never closed
stays. -/
def replaceGroups (replacement s : List Char) : List Char :=
  replaceGroupsFrom replacement 0 s

end Omci.Text
