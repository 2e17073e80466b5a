import HostingClient.Proofs.Url.Reader

/-! # Slashes at the end of an address

An address of the web without query and fragment is read as it is with one slash at its end in the place of all that
it has there, but for the slashes at the end of its path (`Url.read_trimmed`), unless it ends in a blank: at the end
of the text a blank does not count, but in front of a slash it does. -/

namespace HostingClient.Url

/-! ### Ends of texts -/

theorem trimSlashes_append (text : String) :
    ∃ n, text.toList = (Text.trimSlashes text).toList ++ List.replicate n '/' := by
  have happend := Text.trimEndBy_append (· == '/') text.toList
  have hall : ∀ c ∈ (text.toList.reverse.takeWhile (· == '/')).reverse, c = '/' := by
    intro c hc
    exact beq_iff_eq.mp (List.all_eq_true.mp List.all_takeWhile c (List.mem_reverse.mp hc))
  rw [List.eq_replicate_of_mem hall] at happend
  exact ⟨_, by rw [Text.trimSlashes, String.toList_ofList, happend]⟩

/-- Whether a text ends in a blank or a control character. Tabs and line breaks do not count. -/
def endsBlank (text : String) : Bool := (dropBreaks text.toList).getLast?.any (· ≤ ' ')

/-- Nothing is lost at an end that is not blank. -/
theorem dropBreaks_trimControls_of_not_blank {text : String} (h : endsBlank text = false) :
    dropBreaks (trimControls text.toList) = dropBreaks (text.toList.dropWhile (· ≤ ' ')) := by
  have hstart := List.takeWhile_append_dropWhile (p := fun c : Char => decide (c ≤ ' ')) (l := text.toList)
  have hend := Text.trimEndBy_append (· ≤ ' ') (text.toList.dropWhile (· ≤ ' '))
  cases hlost : (dropBreaks
      ((text.toList.dropWhile (· ≤ ' ')).reverse.takeWhile (· ≤ ' ')).reverse).getLast? with
  | none =>
    unfold dropBreaks at hlost ⊢
    rw [← congrArg (List.filter _) hend, List.filter_append, List.getLast?_eq_none_iff.mp hlost, List.append_nil]
    rfl
  | some c =>
    have hc : c ≤ ' ' := by
      have hmem := List.mem_reverse.mp (List.mem_filter.mp (List.mem_of_getLast? hlost)).1
      exact of_decide_eq_true (List.all_eq_true.mp List.all_takeWhile c hmem)
    have hlast : (dropBreaks text.toList).getLast? = some c := by
      unfold dropBreaks at hlost ⊢
      rw [← hstart, ← hend, List.filter_append, List.filter_append, List.getLast?_append, List.getLast?_append, hlost]
      rfl
    rw [endsBlank, hlast] at h
    exact absurd (decide_eq_true hc) (Bool.eq_false_iff.mp h)

/-! ### Paths -/

/-- Whether two paths differ in nothing but the slashes at their ends, of which the first one has one at least. -/
def IsSlashed (path path' : UrlPath) : Prop :=
  ∃ w n, path.text = w ++ ['/'] ∧ path'.text = w ++ List.replicate n '/'

theorem splitSlashes_replicate : ∀ n : Nat, splitSlashes .web (List.replicate n '/') = List.replicate (n + 1) []
  | 0 => rfl
  | n + 1 => congrArg ([] :: ·) (splitSlashes_replicate n)

theorem resolve_slash (front : List (List Char)) (last : List Char) :
    IsSlashed (.segments (resolve front [last, []])) (.segments (resolve front [last])) := by
  have hempty : ∀ done, resolve done [[]] = done ++ [[]] := fun done => rfl
  have htext : ∀ done, (UrlPath.segments (done ++ [[]])).text = (UrlPath.segments done).text ++ ['/'] := fun done => by
    simp [UrlPath.text]
  by_cases hone : dots last = some 1
  · refine ⟨(UrlPath.segments front).text, 1, ?_, ?_⟩
    · rw [resolve, if_pos hone, hempty, htext]
      simp
    · rw [resolve, if_pos hone]
      exact htext front
  by_cases htwo : dots last = some 2
  · refine ⟨(UrlPath.segments front.dropLast).text, 1, ?_, ?_⟩
    · rw [resolve, if_neg hone, if_pos htwo, hempty, htext]
      simp
    · rw [resolve, if_neg hone, if_pos htwo]
      exact htext front.dropLast
  · refine ⟨(UrlPath.segments (front ++ [Codec.Percent.encode keepsInPath last])).text, 0, ?_, ?_⟩
    · rw [resolve, if_neg hone, if_neg htwo, hempty, htext]
    · rw [resolve, if_neg hone, if_neg htwo]
      exact (List.append_nil _).symm

/-- A slash behind a path counts as one more slash at its end, or not at all. -/
theorem readPath_slash (p : List Char) : IsSlashed (readPath .web (p ++ ['/'])) (readPath .web p) := by
  cases p with
  | nil => exact ⟨[], 1, rfl, rfl⟩
  | cons c s =>
    have hslash : (if isSlash .web c then s ++ ['/'] else c :: (s ++ ['/'])) =
        (if isSlash .web c then s else c :: s) ++ '/' :: [] := by
      split <;> rfl
    rw [List.cons_append, readPath, readPath, readSegments, readSegments, hslash, splitSlashes_append]
    obtain ⟨init, last, hsplit⟩ := (List.eq_nil_or_concat _).resolve_left
      (splitSlashes_ne_nil .web (if isSlash .web c then s else c :: s))
    rw [List.concat_eq_append] at hsplit
    obtain ⟨front, hfront⟩ := resolve_append init []
    have hlast : init ++ [last] ++ splitSlashes .web [] = init ++ [last, []] := List.append_assoc _ _ _
    rw [hsplit, hlast, hfront [last] (List.cons_ne_nil _ _), hfront [last, []] (List.cons_ne_nil _ _)]
    exact resolve_slash front last

/-! ### Authorities -/

/-- An authority that can be read with something behind it can be read without. -/
theorem readAuthority_of_followed {scheme s : List Char} {kind : SchemeKind} {x : Authority × List Char}
    (h : readAuthority scheme kind true s = .ok x) (followed : Bool) :
    readAuthority scheme kind followed s = .ok x := by
  unfold readAuthority at h ⊢
  dsimp only at h ⊢
  by_cases hempty : (splitUser s).1 = some [] ∧ (splitUser s).2.isEmpty
  · rw [if_pos ⟨hempty.1, hempty.2, rfl⟩] at h
    cases h
  · rw [if_neg fun hc => hempty ⟨hc.1, hc.2.1⟩] at h ⊢
    exact h

theorem readHierarchy_slash {scheme r : List Char} {f : Bool} {a : Option Authority} {path : UrlPath}
    (h : readHierarchy scheme .web f (r ++ ['/']) = .ok (a, path)) (f' : Bool) :
    ∃ path', readHierarchy scheme .web f' r = .ok (a, path') ∧ IsSlashed path path' := by
  have htake : (r ++ '/' :: []).takeWhile (fun c => !isSlash .web c) = r.takeWhile fun c => !isSlash .web c :=
    takeWhile_append_of_neg (by decide) r []
  unfold readHierarchy at h ⊢
  simp only [htake, drop_takeWhile_append] at h
  obtain ⟨⟨b, rest⟩, hread, h⟩ := bind_eq_ok.mp h
  cases h
  let left := r.drop (r.takeWhile fun c => !isSlash .web c).length
  have hfollowed : (f || !(left ++ ['/']).isEmpty) = true := by simp
  rw [hfollowed] at hread
  refine ⟨_, bind_eq_ok.mpr ⟨_, readAuthority_of_followed hread _, rfl⟩, ?_⟩
  have hpath : (if rest.isEmpty then left ++ ['/'] else '/' :: (rest ++ (left ++ ['/']))) =
      (if rest.isEmpty then left else '/' :: (rest ++ left)) ++ ['/'] := by
    split
    · rfl
    · rw [List.cons_append, List.append_assoc]
  dsimp only
  rw [hpath]
  exact readPath_slash _

theorem readMiddle_slash {scheme r : List Char} {f : Bool} {a : Option Authority} {path : UrlPath}
    (h : readMiddle scheme .web f (r ++ ['/']) = .ok (a, path)) (f' : Bool) :
    ∃ path', readMiddle scheme .web f' r = .ok (a, path') ∧ IsSlashed path path' := by
  unfold readMiddle at h ⊢
  dsimp only at h ⊢
  rw [List.dropWhile_append] at h
  cases hr : r.dropWhile (isSlash .web) with
  | nil =>
    rw [hr] at h
    cases h
  | cons c r' =>
    rw [hr] at h
    exact readHierarchy_slash h f'

/-! ### Addresses -/

theorem readRest_slash {scheme r : List Char} {v : Url} (hk : schemeKind v.scheme = .web)
    (h : readRest scheme (r ++ ['/']) = .ok v) (hq : v.query = none) (hf : v.fragment = none) :
    ∃ path, readRest scheme r = .ok { v with path } ∧ IsSlashed v.path path := by
  obtain ⟨hfragment, hquery⟩ := not_mem_of_readRest h hq hf
  rw [readRest_of_not_mem scheme hfragment hquery] at h
  obtain ⟨⟨a, path⟩, hm, rfl⟩ := map_eq_ok.mp h
  dsimp only at hk
  rw [hk] at hm
  obtain ⟨path', hm', hpath⟩ := readMiddle_slash hm false
  refine ⟨path', ?_, hpath⟩
  rw [readRest_of_not_mem scheme (fun hmem => hfragment (List.mem_append_left _ hmem))
    fun hmem => hquery (List.mem_append_left _ hmem), hk, hm']
  rfl

/-- The slash behind an address that does not end in a blank counts for the path alone. -/
theorem read_bare {base : String} {v : Url} (hk : schemeKind v.scheme = .web) (h : read (base ++ "/") = .ok v)
    (hq : v.query = none) (hf : v.fragment = none) (hblank : endsBlank base = false) :
    ∃ path, read base = .ok { v with path } ∧ IsSlashed v.path path := by
  have hslash : "/".toList = '/' :: [] := rfl
  have htrimmed : dropBreaks (Text.trimEndBy (· ≤ ' ') []) = [] := rfl
  unfold read at h ⊢
  rw [String.toList_append, hslash, dropBreaks_trimControls, htrimmed] at h
  rw [dropBreaks_trimControls_of_not_blank hblank]
  cases hs : splitScheme (dropBreaks (base.toList.dropWhile (· ≤ ' ')) ++ ['/']) with
  | none =>
    rw [hs] at h
    cases h
  | some result =>
    obtain ⟨scheme, rest⟩ := result
    rw [hs] at h
    obtain ⟨r, rfl, hbare, -⟩ := splitScheme_append hs
    rw [hbare]
    exact readRest_slash hk h hq hf

/-- **Slashes at the end of an address.** An address of the web without query and fragment is read as it is with one
slash in the place of those at its end, but for slashes at the end of its path, unless a blank comes last. -/
theorem read_trimmed {text : String} {v : Url} (hk : schemeKind v.scheme = .web)
    (h : read (Text.trimSlashes text ++ "/") = .ok v) (hq : v.query = none) (hf : v.fragment = none)
    (hblank : endsBlank text = false) : ∃ path, read text = .ok { v with path } ∧ IsSlashed v.path path := by
  obtain ⟨n, htext⟩ := trimSlashes_append text
  cases n with
  | zero =>
    rw [List.replicate_zero, List.append_nil] at htext
    rw [← String.toList_inj.mp htext] at h
    exact read_bare hk h hq hf hblank
  | succ n =>
    obtain ⟨front, hfront, hpath⟩ := read_path hk h hq hf
    have hslashes : ∀ c ∈ List.replicate n '/', keepsInPath c = true := fun c hc => by
      rw [List.eq_of_mem_replicate hc]
      decide
    have htext' : text = Text.trimSlashes text ++ String.ofList ('/' :: List.replicate n '/') := by
      rw [← String.toList_inj, String.toList_append, String.toList_ofList, ← List.replicate_succ, ← htext]
    have hread := hpath _ hslashes
    rw [← htext'] at hread
    refine ⟨_, hread, (UrlPath.segments front).text, n + 1, ?_, ?_⟩
    · rw [hfront]
      simp [UrlPath.text]
    · rw [splitSlashes_replicate, resolve_of_isKept front fun s hs => List.eq_of_mem_replicate hs ▸ isKept_nil]
      simp [UrlPath.text, List.flatMap_def]

end HostingClient.Url
