import Mathlib.Data.List.Chain
import Mathlib.Data.List.TakeWhile
import Omci.Proofs.Text.Numeral
import Omci.Proofs.Text.Search
import Omci.Text.Blank

/-!
# Texts without blanks at their ends

Trimming leaves a text alone when its first and last characters are not blank.
Numerals are such texts, and so is what is joined from such texts. That makes a
collapsed text one of them: it is joined from words, and a word has no blank in
it.
-/

namespace Omci.Text

/-- The text neither begins nor ends with a blank. -/
def IsTrimmed (s : List Char) : Prop :=
  s.head?.any isBlank = false ∧ s.getLast?.any isBlank = false

instance (s : List Char) : Decidable (IsTrimmed s) :=
  inferInstanceAs (Decidable (_ ∧ _))

theorem dropWhile_eq_self {test : Char → Bool} {s : List Char}
    (h : s.head?.any test = false) : s.dropWhile test = s := by
  cases s with
  | nil => rfl
  | cons c rest => exact List.dropWhile_cons_of_neg (Bool.eq_false_iff.1 h)

theorem IsTrimmed.trim {s : List Char} (h : IsTrimmed s) : Text.trim s = s := by
  have hend : s.reverse.head?.any isBlank = false := by
    rw [List.head?_reverse]
    exact h.2
  rw [Text.trim, trimStart, dropWhile_eq_self h.1, trimEnd, dropWhile_eq_self hend,
    List.reverse_reverse]

theorem isTrimmed_of_forall {s : List Char} (h : ∀ c ∈ s, isBlank c = false) :
    IsTrimmed s := by
  refine ⟨(Option.any_eq_false _ _).2 fun c hc => ?_,
    (Option.any_eq_false _ _).2 fun c hc => ?_⟩
  · exact h c (List.mem_of_head? hc)
  · exact h c (List.mem_of_getLast? hc)

theorem any_head?_append {test : Char → Bool} {s t : List Char}
    (hs : s.head?.any test = false) (ht : t.head?.any test = false) :
    (s ++ t).head?.any test = false := by
  cases s with
  | nil => exact ht
  | cons c rest => exact hs

theorem getLast?_append_of_ne_nil (s : List Char) {t : List Char} (hne : t ≠ []) :
    (s ++ t).getLast? = t.getLast? := by
  obtain ⟨c, hc⟩ := Option.ne_none_iff_exists'.1 (mt List.getLast?_eq_none_iff.1 hne)
  rw [List.getLast?_append, hc, Option.some_or]

theorem trimEnd_append {s t : List Char} (ht : t.getLast?.any isBlank = false)
    (hne : t ≠ []) :
    trimEnd (s ++ t) = s ++ t := by
  have hend : (s ++ t).reverse.head?.any isBlank = false := by
    rw [List.head?_reverse, getLast?_append_of_ne_nil s hne]
    exact ht
  rw [trimEnd, dropWhile_eq_self hend, List.reverse_reverse]

theorem mem_dropWhile_of_mem {test : Char → Bool} {s : List Char} {c : Char} (hc : c ∈ s)
    (htest : test c = false) : c ∈ s.dropWhile test := by
  rw [← List.takeWhile_append_dropWhile (p := test) (l := s), List.mem_append] at hc
  refine hc.resolve_left fun hmem => ?_
  rw [List.all_eq_true.1 List.all_takeWhile c hmem] at htest
  cases htest

/-- Trimming takes nothing but blanks away. -/
theorem mem_trim_of_mem {s : List Char} {c : Char} (hc : c ∈ s)
    (hblank : isBlank c = false) :
    c ∈ trim s := by
  have hstart : c ∈ (trimStart s).reverse :=
    List.mem_reverse.2 (mem_dropWhile_of_mem hc hblank)
  exact List.mem_reverse.2 (mem_dropWhile_of_mem hstart hblank)

theorem isEmpty_trim (s : List Char) : (trim s).isEmpty = allBlank s := by
  rw [Bool.eq_iff_iff, List.isEmpty_iff, allBlank, List.all_eq_true]
  constructor
  · intro hempty c hc
    cases hblank : isBlank c with
    | true => rfl
    | false => exact absurd (hempty ▸ mem_trim_of_mem hc hblank) List.not_mem_nil
  · intro hblank
    rw [trim, trimStart, List.dropWhile_eq_nil_iff.2 hblank]
    rfl

theorem ne_nil_of_trim {s : List Char} (h : trim s ≠ []) : s ≠ [] := by
  rintro rfl
  exact h rfl

theorem mem_of_mem_trim {s : List Char} {c : Char} (h : c ∈ trim s) : c ∈ s :=
  List.dropWhile_subset _
    (List.mem_reverse.1 (List.dropWhile_subset _ (List.mem_reverse.1 h)))

/-- What is trimmed away is blank. -/
theorem exists_eq_trim (s : List Char) :
    ∃ front back, s = front ++ trim s ++ back ∧ allBlank front = true ∧
      allBlank back = true := by
  refine ⟨s.takeWhile isBlank, ((trimStart s).reverse.takeWhile isBlank).reverse, ?_,
    List.all_takeWhile, ?_⟩
  · rw [List.append_assoc, trim, trimEnd, ← List.reverse_append,
      List.takeWhile_append_dropWhile, List.reverse_reverse, trimStart,
      List.takeWhile_append_dropWhile]
  · rw [allBlank, List.all_reverse]
    exact List.all_takeWhile

/-- Blanks around a text make no difference to what is left of it. -/
theorem trim_between {front back : List Char} (hfront : allBlank front = true)
    (hback : allBlank back = true) (s : List Char) :
    trim (front ++ s ++ back) = trim s := by
  have hstart : trimStart (front ++ s ++ back) = trimStart (s ++ back) := by
    rw [List.append_assoc]
    exact List.dropWhile_append_of_pos (List.all_eq_true.1 hfront)
  have hend (t : List Char) : trimEnd (t ++ back) = trimEnd t := by
    have hreverse : ∀ c ∈ back.reverse, isBlank c = true := fun c hc =>
      List.all_eq_true.1 hback c (List.mem_reverse.1 hc)
    rw [trimEnd, List.reverse_append, List.dropWhile_append_of_pos hreverse, trimEnd]
  have hnothing : back.dropWhile isBlank = [] :=
    List.dropWhile_eq_nil_iff.2 (List.all_eq_true.1 hback)
  rw [trim, hstart, trimStart, List.dropWhile_append]
  split
  · next hempty => rw [hnothing, trim, trimStart, List.isEmpty_iff.1 hempty]
  · rw [hend, trim, trimStart]

/-- The pieces of a text are the same behind trimming, whether it was trimmed
before it was cut or not. -/
theorem map_trim_split_trim {separator : Char} (hsep : isBlank separator = false)
    (s : List Char) :
    (split separator (trim s)).map trim = (split separator s).map trim := by
  have hfree {t : List Char} (ht : allBlank t = true) : ∀ c ∈ t,
      decide (c = separator) = false := by
    intro c hc
    refine decide_eq_false ?_
    rintro rfl
    rw [List.all_eq_true.1 ht c hc] at hsep
    cases hsep
  obtain ⟨front, back, hs, hfront, hback⟩ := exists_eq_trim s
  obtain ⟨pieces, last, htrim, hbehind⟩ :=
    exists_splitWhere_append_right (hfree hback) (trim s)
  obtain ⟨piece, more, hfirst, hbefore⟩ :=
    exists_splitWhere_append_left (hfree hfront) (trim s ++ back)
  have hpiece : trim (front ++ piece) = trim piece := by
    have hkept := trim_between hfront List.all_nil piece
    rwa [List.append_nil] at hkept
  have hlast : trim (last ++ back) = trim last := trim_between List.all_nil hback last
  calc (split separator (trim s)).map trim = (pieces ++ [last ++ back]).map trim := by
        rw [split, htrim, List.map_append, List.map_append, List.map_singleton,
          List.map_singleton, hlast]
    _ = (piece :: more).map trim := by rw [← hbehind, hfirst]
    _ = (split separator s).map trim := by
        rw [split, hs, List.append_assoc, hbefore, List.map_cons, List.map_cons, hpiece]

theorem trim_map {f : Char → Char} (h : ∀ c, isBlank (f c) = isBlank c) (s : List Char) :
    trim (s.map f) = (trim s).map f := by
  have hblank : isBlank ∘ f = isBlank := funext h
  rw [trim, trimStart, trimEnd, List.dropWhile_map, hblank, ← List.map_reverse,
    List.dropWhile_map, hblank, ← List.map_reverse]
  rfl

theorem not_isBlank_of_letter {c : Char} (hlow : 65 ≤ c.toNat) (hhigh : c.toNat ≤ 122) :
    isBlank c = false := by
  simp [isBlank, CodeRanges.has, blankRanges]
  omega

/-! ## Numerals -/

theorem not_isBlank_of_isDigit {c : Char} (h : c.isDigit = true) : isBlank c = false := by
  have hcode := code_of_isDigit h
  simp [isBlank, CodeRanges.has, blankRanges]
  omega

theorem not_allBlank_decimal (n : Nat) : allBlank (decimal n) = false := by
  obtain ⟨c, rest, hn, hc⟩ := exists_decimal_eq_cons n
  rw [hn, allBlank, List.all_cons, not_isBlank_of_isDigit hc, Bool.false_and]

theorem trim_decimal (n : Nat) : trim (decimal n) = decimal n :=
  (isTrimmed_of_forall fun _ hc => not_isBlank_of_isDigit (isDigit_of_mem_decimal hc)).trim

/-! ## Joined texts -/

theorem join_ne_nil {separator : List Char} {pieces : List (List Char)}
    (hpieces : pieces ≠ []) (hne : ∀ piece ∈ pieces, piece ≠ []) :
    join separator pieces ≠ [] := by
  obtain ⟨piece, rest, rfl⟩ := List.exists_cons_of_ne_nil hpieces
  have hpiece := hne piece List.mem_cons_self
  cases rest with
  | nil => exact hpiece
  | cons next more =>
    rw [join_cons_cons, List.append_assoc]
    exact List.append_ne_nil_of_left_ne_nil hpiece _

theorem IsTrimmed.append {s t : List Char} (hs : IsTrimmed s) (ht : IsTrimmed t)
    (hsne : s ≠ []) (htne : t ≠ []) (between : List Char) :
    IsTrimmed (s ++ between ++ t) := by
  obtain ⟨c, rest, rfl⟩ := List.exists_cons_of_ne_nil hsne
  refine ⟨hs.1, ?_⟩
  rw [getLast?_append_of_ne_nil _ htne]
  exact ht.2

theorem isTrimmed_join {separator : List Char} {pieces : List (List Char)}
    (hne : ∀ piece ∈ pieces, piece ≠ []) (h : ∀ piece ∈ pieces, IsTrimmed piece) :
    IsTrimmed (join separator pieces) := by
  induction pieces with
  | nil => exact ⟨rfl, rfl⟩
  | cons piece rest ih =>
    have hpiece := h piece List.mem_cons_self
    cases rest with
    | nil => exact hpiece
    | cons next more =>
      have hrest : ∀ other ∈ next :: more, other ≠ [] :=
        fun other hother => hne other (List.mem_cons_of_mem _ hother)
      rw [join_cons_cons]
      exact hpiece.append (ih hrest fun other hother =>
        h other (List.mem_cons_of_mem _ hother))
        (hne piece List.mem_cons_self) (join_ne_nil (List.cons_ne_nil _ _) hrest) separator

/-! ## Collapsed texts -/

/-- The text neither begins nor ends with a blank, and no two blanks stand side
by side. -/
def IsCollapsed (s : List Char) : Prop :=
  IsTrimmed s ∧ s.IsChain fun c d => isBlank c = false ∨ isBlank d = false

theorem of_mem_words {s word : List Char} (h : word ∈ words s) :
    word ≠ [] ∧ ∀ c ∈ word, c ∈ s ∧ isBlank c = false := by
  obtain ⟨hpiece, hfull⟩ := List.mem_filter.1 h
  refine ⟨?_, fun c hc => mem_splitWhere hpiece hc⟩
  rintro rfl
  cases hfull

theorem isTrimmed_collapse (s : List Char) : IsTrimmed (collapse s) :=
  isTrimmed_join (fun _ hword => (of_mem_words hword).1) fun _ hword =>
    isTrimmed_of_forall fun c hc => ((of_mem_words hword).2 c hc).2

/-- Between two words stands one blank, and in a word none. -/
theorem isChain_join {pieces : List (List Char)} (hne : ∀ piece ∈ pieces, piece ≠ [])
    (h : ∀ piece ∈ pieces, ∀ c ∈ piece, isBlank c = false) :
    (join [' '] pieces).IsChain fun c d => isBlank c = false ∨ isBlank d = false := by
  induction pieces with
  | nil => exact .nil
  | cons piece rest ih =>
    have hpiece := h piece List.mem_cons_self
    have hchain : piece.IsChain fun c d => isBlank c = false ∨ isBlank d = false :=
      (List.pairwise_of_forall_mem_list fun c hc _ _ => .inl (hpiece c hc)).isChain
    cases rest with
    | nil => exact hchain
    | cons next more =>
      have hrest : ∀ other ∈ next :: more, other ≠ [] :=
        fun other hother => hne other (List.mem_cons_of_mem _ hother)
      have hblank : ∀ other ∈ next :: more, ∀ c ∈ other, isBlank c = false :=
        fun other hother => h other (List.mem_cons_of_mem _ hother)
      have htrimmed : IsTrimmed (join [' '] (next :: more)) :=
        isTrimmed_join hrest fun other hother => isTrimmed_of_forall (hblank other hother)
      rw [join_cons_cons, List.append_assoc, List.singleton_append]
      refine List.isChain_append.2 ⟨hchain,
        List.isChain_cons.2 ⟨fun c hc => ?_, ih hrest hblank⟩, ?_⟩
      · exact .inr ((Option.any_eq_false _ _).1 htrimmed.1 c hc)
      · exact fun c hc d _ => .inl (hpiece c (List.mem_of_getLast? hc))

theorem isCollapsed_collapse (s : List Char) : IsCollapsed (collapse s) := by
  refine ⟨isTrimmed_collapse s, isChain_join (fun _ hword => (of_mem_words hword).1) ?_⟩
  exact fun _ hword c hc => ((of_mem_words hword).2 c hc).2

theorem mem_collapse {s : List Char} {c : Char} (hc : c ∈ collapse s) :
    c = ' ' ∨ c ∈ s := by
  rcases mem_join hc with hspace | ⟨word, hword, hmem⟩
  · exact .inl (List.mem_singleton.1 hspace)
  · exact .inr ((of_mem_words hword).2 c hmem).1

end Omci.Text
