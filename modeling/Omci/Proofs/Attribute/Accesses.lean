import Omci.Proofs.Attribute.Reading
import Omci.Proofs.Attribute.Restating

/-!
# What a list of accesses says

The whole text is changed before it is cut into tokens: hyphens go, its ends are
trimmed, it is lowered, and a synonym is put in its place. None of this moves a
comma or joins what a comma parts. So the tokens of a text are its pieces, each of
them changed in the same way, and a list of keywords gives back its keywords. A
list is never taken for a synonym, since every synonym has a piece that is no
keyword.
-/

namespace Omci.Access

open Text

/-! ## Keywords -/

theorem ofKeyword?_eq_some_iff {token : List Char} {access : Access} :
    ofKeyword? token = some access ↔ token = access.keyword.toList := by
  have hkeyword : ofKeyword? access.keyword.toList = some access := by
    cases access <;> decide
  refine ⟨fun h => ?_, fun h => h ▸ hkeyword⟩
  unfold ofKeyword? at h
  split at h
  · next hread => cases h; exact hread
  · split at h
    · next hwrite => cases h; exact hwrite
    · split at h
      · next hcreate => cases h; exact hcreate
      · cases h

theorem ofToken?_keyword (access : Access) :
    ofToken? access.keyword.toList = some access := by
  cases access <;> decide

theorem keyword_ne_nil (access : Access) : access.keyword.toList ≠ [] := by
  cases access <;> decide

theorem isTrimmed_keyword (access : Access) : IsTrimmed access.keyword.toList := by
  cases access <;> decide

theorem allLowered_keyword (access : Access) : allLowered access.keyword.toList = true := by
  cases access <;> decide

theorem comma_not_mem_keyword (access : Access) : ',' ∉ access.keyword.toList := by
  cases access <;> decide

/-- The rank of an access tells which one it is. -/
theorem rank_inj (x y : Access) (h : x.rank = y.rank) : x = y := by
  cases x <;> cases y <;> first | rfl | cases h

theorem mem_ofList_iff {accesses : List Access} {access : Access} :
    access ∈ (Ascending.ofList accesses : AccessSet) ↔ access ∈ accesses :=
  (Ascending.mem_putAll_iff rank_inj).trans (or_iff_left List.not_mem_nil)

/-! ## Tokens -/

/-- A piece as a token: without hyphens, trimmed and lowered. -/
def toToken (piece : List Char) : List Char :=
  (trim (piece.filter (· ≠ '-'))).map lowerAscii

/-- The pieces of a text become tokens one by one. -/
theorem map_trim_split_lower {s : List Char}
    (h : ∀ c ∈ s, c.toNat < 128 ∨ isBlank c = true) :
    (split ',' (lower (trim (s.filter (· ≠ '-'))))).map trim =
      (split ',' s).map toToken := by
  have hlower : lower (trim (s.filter (· ≠ '-'))) =
      (trim (s.filter (· ≠ '-'))).map lowerAscii :=
    lowerAfter_eq_map (fun c hc => h c (List.mem_filter.1 (mem_of_mem_trim hc)).1) []
  have hcomma : ∀ c, decide (lowerAscii c = ',') = decide (c = ',') := by
    intro c
    refine decide_eq_decide.2 ⟨fun hc => eq_of_lowerAscii hc (by decide), ?_⟩
    rintro rfl
    decide
  have htrim : trim ∘ List.map lowerAscii = List.map lowerAscii ∘ trim :=
    funext (trim_map isBlank_lowerAscii)
  -- Hyphens may go behind the cut, since the cut is at commas and these stay.
  have hkeeps : ∀ c, decide (c = ',') = true → decide (c ≠ '-') = true := by
    intro c hc
    rw [of_decide_eq_true hc]
    decide
  calc (split ',' (lower (trim (s.filter (· ≠ '-'))))).map trim
      = ((split ',' (trim (s.filter (· ≠ '-')))).map trim).map (List.map lowerAscii) := by
        rw [hlower, split, splitWhere_map hcomma, List.map_map, htrim, List.map_map]
        rfl
    _ = ((split ',' (s.filter (· ≠ '-'))).map trim).map (List.map lowerAscii) := by
        rw [map_trim_split_trim (by decide)]
    _ = (split ',' s).map toToken := by
        rw [split, splitWhere_filter hkeeps, List.map_map, List.map_map]
        rfl

/-- A text of keywords is no synonym. -/
theorem ne_synonym {s : List Char}
    (h : ∀ token ∈ (split ',' s).map trim, ∃ access : Access,
      token = access.keyword.toList) :
    ∀ entry ∈ synonyms, entry.1.toList ≠ s := by
  have hother : ∀ entry ∈ synonyms, ((split ',' entry.1.toList).map trim).any
      (fun token => (ofKeyword? token).isNone) = true := by decide
  rintro entry hentry rfl
  obtain ⟨token, htoken, hnone⟩ := List.any_eq_true.1 (hother entry hentry)
  obtain ⟨access, haccess⟩ := h token htoken
  rw [ofKeyword?_eq_some_iff.2 haccess] at hnone
  cases hnone

/-! ## Lists -/

/-- The piece says the access: it is the keyword in any case, with blanks around it
and hyphens anywhere. -/
inductive Says (access : Access) (piece : List Char) : Prop
  | intro (front word back : List Char)
    (hpiece : piece.filter (· ≠ '-') = front ++ word ++ back)
    (hfront : allBlank front = true) (hback : allBlank back = true)
    (hword : word.map lowerAscii = access.keyword.toList)

variable {access : Access} {piece : List Char}

theorem Says.toToken_eq (h : Says access piece) :
    toToken piece = access.keyword.toList := by
  obtain ⟨front, word, back, hpiece, hfront, hback, hword⟩ := h
  have htrimmed : IsTrimmed word :=
    isTrimmed_map_lowerAscii.1 (hword ▸ access.isTrimmed_keyword)
  rw [toToken, hpiece, trim_between hfront hback, htrimmed.trim, hword]

/-- A piece has letters, hyphens and blanks. -/
theorem Says.of_mem (h : Says access piece) {c : Char} (hc : c ∈ piece) :
    c ≠ ',' ∧ (c.toNat < 128 ∨ isBlank c = true) := by
  have hblank (hblank : isBlank c = true) : c ≠ ',' ∧ (c.toNat < 128 ∨ isBlank c = true) :=
    ⟨by rintro rfl; exact absurd hblank (by decide), .inr hblank⟩
  obtain ⟨front, word, back, hpiece, hfront, hback, hword⟩ := h
  by_cases hhyphen : c = '-'
  · rw [hhyphen]
    decide
  · have hkept : c ∈ front ++ word ++ back :=
      hpiece ▸ List.mem_filter.2 ⟨hc, decide_eq_true hhyphen⟩
    rcases List.mem_append.1 hkept with hkept | hkept
    · rcases List.mem_append.1 hkept with hkept | hkept
      · exact hblank (List.all_eq_true.1 hfront c hkept)
      · have hletter : lowerAscii c ∈ access.keyword.toList :=
          hword ▸ List.mem_map_of_mem hkept
        refine ⟨?_, .inl (toNat_lt_of_lowerAscii ?_)⟩
        · rintro rfl
          exact access.comma_not_mem_keyword hletter
        · exact toNat_lt_of_allLowered access.allLowered_keyword _ hletter
    · exact hblank (List.all_eq_true.1 hback c hkept)

section Lists

variable {accesses : List Access} {pieces : List (List Char)}

theorem exists_says_of_mem (h : List.Forall₂ Says accesses pieces)
    (hpiece : piece ∈ pieces) :
    ∃ access, Says access piece := by
  induction h with
  | nil => cases hpiece
  | cons hkeyword _ ih =>
    rcases List.mem_cons.1 hpiece with rfl | hpiece
    · exact ⟨_, hkeyword⟩
    · exact ih hpiece

theorem map_toToken (h : List.Forall₂ Says accesses pieces) :
    pieces.map toToken = accesses.map (·.keyword.toList) := by
  induction h with
  | nil => rfl
  | cons hkeyword _ ih => rw [List.map_cons, List.map_cons, hkeyword.toToken_eq, ih]

theorem tokens_join (h : List.Forall₂ Says accesses pieces) (hne : accesses ≠ []) :
    tokens (join [','] pieces) = accesses.map (·.keyword.toList) := by
  have hpieces : pieces ≠ [] := by
    rintro rfl
    cases h
    exact hne rfl
  have hplain : ∀ c ∈ join [','] pieces, c.toNat < 128 ∨ isBlank c = true := by
    intro c hc
    rcases mem_join hc with hc | ⟨piece, hpiece, hc⟩
    · rw [List.mem_singleton.1 hc]
      decide
    · obtain ⟨access, hkeyword⟩ := exists_says_of_mem h hpiece
      exact (hkeyword.of_mem hc).2
  have hcut : split ',' (join [','] pieces) = pieces := by
    refine split_join hpieces fun piece hpiece hc => ?_
    obtain ⟨access, hkeyword⟩ := exists_says_of_mem h hpiece
    exact (hkeyword.of_mem hc).1 rfl
  have htokens := map_trim_split_lower hplain
  rw [hcut, map_toToken h] at htokens
  have hsynonym : synonyms.find? (fun entry => entry.1.toList =
      lower (trim ((join [','] pieces).filter (· ≠ '-')))) = none := by
    refine List.find?_eq_none.2 fun entry hentry => ?_
    rw [decide_eq_true_eq]
    refine ne_synonym (fun token htoken => ?_) entry hentry
    rw [htokens] at htoken
    obtain ⟨access, -, rfl⟩ := List.mem_map.1 htoken
    exact ⟨access, rfl⟩
  unfold tokens
  dsimp only
  rw [hsynonym, htokens]
  refine List.filter_eq_self.2 fun token htoken => ?_
  obtain ⟨access, -, rfl⟩ := List.mem_map.1 htoken
  simpa using access.keyword_ne_nil

end Lists

theorem read?_eq_none_iff {s : List Char} :
    read? s = none ↔ ∀ token ∈ tokens s, ∀ access : Access, token ≠
      access.keyword.toList := by
  have hkeyword (token : List Char) : (ofKeyword? token).isSome = true ↔
      ∃ access : Access, token = access.keyword.toList := by
    rw [Option.isSome_iff_exists]
    exact exists_congr fun _ => ofKeyword?_eq_some_iff
  unfold read?
  split
  · next hany =>
    obtain ⟨token, htoken, hsome⟩ := List.any_eq_true.1 hany
    obtain ⟨access, haccess⟩ := (hkeyword token).1 hsome
    exact iff_of_false (Option.some_ne_none _) fun h => h token htoken access haccess
  · next hnone =>
    refine iff_of_true rfl fun token htoken access haccess => hnone ?_
    exact List.any_eq_true.2 ⟨token, htoken, (hkeyword token).2 ⟨access, haccess⟩⟩

/-- A list of keywords is read as the set of its accesses. A set that is read is not
empty, and there is none exactly where no token is a keyword. -/
theorem lists_name_their_accesses :
    (∀ (accesses : List Access) (pieces : List (List Char)), accesses ≠ [] →
      List.Forall₂ Says accesses pieces →
      ∃ set, read? (join [','] pieces) = some set ∧ ∀ access, access ∈ set ↔
        access ∈ accesses) ∧
    (∀ (s : List Char) (set : AccessSet), read? s = some set → ∃ access, access ∈ set) ∧
    ∀ s : List Char, read? s = none ↔
      ∀ token ∈ tokens s, ∀ access : Access, token ≠ access.keyword.toList := by
  refine ⟨fun accesses pieces hne hpieces => ?_, fun s set hread => ?_,
    fun s => read?_eq_none_iff⟩
  · have htokens := tokens_join hpieces hne
    have haccesses : (accesses.map (·.keyword.toList)).filterMap ofToken? = accesses := by
      rw [List.filterMap_map]
      exact (List.filterMap_congr fun access _ => access.ofToken?_keyword).trans
        List.filterMap_some
    have hany : ((tokens (join [','] pieces)).any fun token =>
        (ofKeyword? token).isSome) = true := by
      obtain ⟨access, rest, rfl⟩ := List.exists_cons_of_ne_nil hne
      rw [htokens, List.map_cons, List.any_cons, ofKeyword?_eq_some_iff.2 rfl]
      rfl
    refine ⟨_, if_pos hany, fun access => ?_⟩
    rw [htokens, haccesses, mem_ofList_iff]
  · obtain ⟨access, hmem⟩ :=
      List.exists_mem_of_ne_nil _ (List.isEmpty_eq_false_iff.1 (isEmpty_of_read? hread))
    exact ⟨access, hmem⟩

theorem lists_name_their_accesses_sample :
    List.Forall₂ Says [.write, .setByCreate, .read, .write]
      ["-W ".toList, "\tSet-By-create".toList, " r- ".toList, "w".toList] ∧
    (∃ set, read? "-W ,\tSet-By-create, r- ,w".toList = some set ∧
      ∀ access, access ∈ set ↔ access ∈ [Access.write, .setByCreate, .read, .write]) ∧
    (read? "R, others".toList = some (Ascending.ofList [.read]) ∧
      ∃ access, access ∈ (Ascending.ofList [.read] : AccessSet)) ∧
    read? "2 bytes".toList = none := by
  obtain ⟨hlists, hfull, hnone⟩ := lists_name_their_accesses
  have hpieces : List.Forall₂ Says [.write, .setByCreate, .read, .write]
      ["-W ".toList, "\tSet-By-create".toList, " r- ".toList, "w".toList] := by
    refine .cons ?_ (.cons ?_ (.cons ?_ (.cons ?_ .nil)))
    · exact .intro [] "W".toList [' '] (by decide) rfl (by decide) (by decide)
    · exact .intro ['\t'] "SetBycreate".toList [] (by decide) (by decide) rfl (by decide)
    · exact .intro [' '] "r".toList [' '] (by decide) (by decide) (by decide) (by decide)
    · exact .intro [] "w".toList [] (by decide) rfl rfl (by decide)
  have hread : read? "R, others".toList = some (Ascending.ofList [.read]) := by
    decide +kernel
  have htokens : tokens "2 bytes".toList = ["2 bytes".toList] := by decide +kernel
  refine ⟨hpieces, hlists _ _ (List.cons_ne_nil _ _) hpieces, ⟨hread, hfull _ _ hread⟩,
    (hnone _).2 fun token htoken access => ?_⟩
  rw [htokens, List.mem_singleton] at htoken
  rw [htoken]
  cases access <;> decide

end Omci.Access
