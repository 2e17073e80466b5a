import HostingClient.Proofs.Outcome
import HostingClient.Proofs.Url.Path

/-! # Paths behind an address

If an address of the web can be read with a slash behind it, it can be read with any path behind the slash, and
scheme and authority stay (`Url.read_append`): the slash ends the authority, if a question mark or a number sign has
not ended it before. If none has, the path goes to the end of the path that the address has (`Url.read_path`). -/

namespace HostingClient.Url

/-! ### Splitting before a sign -/

section
variable {α : Type} {q : α → Bool} {c : α}

theorem dropWhile_append_of_neg (h : q c = false) (b p : List α) :
    (b ++ c :: p).dropWhile q = b.dropWhile q ++ c :: p := by
  rw [List.dropWhile_append, List.dropWhile_cons_of_neg (by simp [h])]
  split
  · next he => rw [List.isEmpty_iff.mp he, List.nil_append]
  · rfl

theorem takeWhile_append_of_neg (h : q c = false) (b p : List α) :
    (b ++ c :: p).takeWhile q = b.takeWhile q := by
  rw [List.takeWhile_append, List.takeWhile_cons_of_neg (by simp [h])]
  split
  · next he => rw [List.append_nil, (List.takeWhile_prefix q).eq_of_length he]
  · rfl

theorem drop_takeWhile_append (b p : List α) :
    (b ++ p).drop (b.takeWhile q).length = b.drop (b.takeWhile q).length ++ p :=
  List.drop_append_of_le_length (List.takeWhile_prefix q).length_le

end

/-- What remains of an address with a path behind a slash, once blanks and breaks are dropped. -/
theorem dropBreaks_trimControls (b p : List Char) :
    dropBreaks (trimControls (b ++ '/' :: p)) =
      dropBreaks (b.dropWhile (· ≤ ' ')) ++ '/' :: dropBreaks (Text.trimEndBy (· ≤ ' ') p) := by
  have hdrop := fun b p => dropWhile_append_of_neg (q := fun c : Char => decide (c ≤ ' ')) (c := '/') (by decide) b p
  have htrim : trimControls (b ++ '/' :: p) = b.dropWhile (· ≤ ' ') ++ '/' :: Text.trimEndBy (· ≤ ' ') p := by
    unfold trimControls Text.trimEndBy
    rw [hdrop, List.reverse_append, List.reverse_cons, List.append_assoc, List.singleton_append, hdrop,
      List.reverse_append, List.reverse_cons, List.reverse_reverse, List.append_assoc]
    rfl
  unfold dropBreaks
  rw [htrim, List.filter_append, List.filter_cons_of_pos (by decide)]

theorem splitScheme_append {b scheme rest : List Char} (h : splitScheme (b ++ ['/']) = some (scheme, rest)) :
    ∃ r, rest = r ++ ['/'] ∧ splitScheme b = some (scheme, r) ∧
      ∀ p, splitScheme (b ++ '/' :: p) = some (scheme, r ++ '/' :: p) := by
  have hslash : isSchemeChar '/' = false := by decide
  unfold splitScheme at h ⊢
  dsimp only at h ⊢
  simp only [takeWhile_append_of_neg hslash, drop_takeWhile_append] at h ⊢
  cases hd : b.drop (b.takeWhile isSchemeChar).length with
  | nil =>
    rw [hd, List.nil_append] at h
    dsimp only at h
    rw [if_neg fun hc => absurd hc.1 (by decide)] at h
    cases h
  | cons c r =>
    rw [hd, List.cons_append] at h
    dsimp only at h
    split at h
    · next hc =>
      cases h
      exact ⟨r, rfl, if_pos hc, fun p => if_pos hc⟩
    · cases h

/-! ### The fragment and the query -/

theorem splitAt_append (sign : Char) (a b : List Char) : splitAt sign (a ++ b) =
    match splitAt sign a with
    | (x, some y) => (x, some (y ++ b))
    | (x, none) => (x ++ (splitAt sign b).1, (splitAt sign b).2) := by
  have hle := (List.takeWhile_prefix (· != sign) (l := a)).length_le
  unfold splitAt
  dsimp only
  by_cases hall : (a.takeWhile (· != sign)).length = a.length
  · have heq := (List.takeWhile_prefix (· != sign)).eq_of_length hall
    rw [if_pos hall, List.takeWhile_append, if_pos hall]
    dsimp only
    rw [heq, List.length_append, List.length_append]
    by_cases hb : (b.takeWhile (· != sign)).length = b.length
    · rw [if_pos (by omega), if_pos hb]
    · rw [if_neg (by omega), if_neg hb, Nat.add_assoc, List.drop_length_add_append]
  · rw [if_neg hall, List.takeWhile_append, if_neg hall]
    dsimp only
    rw [List.length_append, if_neg (by omega), List.drop_append_of_le_length (by omega)]

/-- A slash and what follows it are on one side of the first sign if the sign comes before the slash; else the sign
is looked for behind the slash. -/
theorem splitAt_slash {sign : Char} (h : '/' ≠ sign) (r : List Char) :
    (∃ m q, ∀ p, splitAt sign (r ++ '/' :: p) = (m, some (q ++ '/' :: p))) ∨
      ∀ p, splitAt sign (r ++ '/' :: p) = (r ++ '/' :: (splitAt sign p).1, (splitAt sign p).2) := by
  have hnone : splitAt sign ['/'] = (['/'], none) := by
    unfold splitAt
    rw [List.takeWhile_cons_of_pos (by simpa using h), List.takeWhile_nil]
    rfl
  cases hr : splitAt sign r with
  | mk m rest =>
    cases rest with
    | some q =>
      left
      refine ⟨m, q, fun p => ?_⟩
      rw [splitAt_append, hr]
    | none =>
      right
      intro p
      have hm : m = r := by
        unfold splitAt at hr
        dsimp only at hr
        split at hr
        · next hall =>
          cases hr
          exact (List.takeWhile_prefix _).eq_of_length hall
        · cases hr
      have happend := splitAt_append sign ['/'] p
      rw [hnone, List.singleton_append] at happend
      rw [splitAt_append, hr, happend, hm]
      rfl

/-- What stands before the query. -/
def beforeQuery (rest : List Char) : List Char := (splitAt '?' (splitAt '#' rest).1).1

/-- Whether a query or a fragment follows. -/
def isFollowed (rest : List Char) : Bool :=
  (splitAt '#' rest).2.isSome || (splitAt '?' (splitAt '#' rest).1).2.isSome

theorem beforeQuery_slash (r : List Char) :
    (∃ m, ∀ p, beforeQuery (r ++ '/' :: p) = m ∧ isFollowed (r ++ '/' :: p) = true) ∨
      ∀ p, beforeQuery (r ++ '/' :: p) = r ++ '/' :: beforeQuery p := by
  unfold beforeQuery isFollowed
  rcases splitAt_slash (by decide : '/' ≠ '#') r with ⟨m, q, hf⟩ | hf
  · left
    refine ⟨(splitAt '?' m).1, fun p => ?_⟩
    rw [hf]
    exact ⟨rfl, rfl⟩
  · rcases splitAt_slash (by decide : '/' ≠ '?') r with ⟨m, q, hq⟩ | hq
    · left
      refine ⟨m, fun p => ?_⟩
      rw [hf]
      dsimp only
      rw [hq]
      exact ⟨rfl, Bool.or_true _⟩
    · right
      intro p
      rw [hf]
      dsimp only
      rw [hq]

/-! ### The authority -/

/-- The path behind a host does not count for the authority. -/
theorem readHierarchy_append {scheme r : List Char} {f : Bool} {a : Option Authority} {path : UrlPath}
    (h : readHierarchy scheme .web f (r ++ ['/']) = .ok (a, path)) : ∃ front, ∀ f' p,
      readHierarchy scheme .web f' (r ++ '/' :: p) = .ok (a, .segments (resolve front (splitSlashes .web p))) := by
  have htake : ∀ p, (r ++ '/' :: p).takeWhile (fun c => !isSlash .web c) = r.takeWhile fun c => !isSlash .web c :=
    fun p => takeWhile_append_of_neg (by decide) r p
  have hne : ∀ (f : Bool) (x p : List Char), (f || !(x ++ '/' :: p).isEmpty) = true := by
    intro f x p
    cases x <;> simp
  unfold readHierarchy at h ⊢
  simp only [htake, drop_takeWhile_append, hne] at h ⊢
  obtain ⟨⟨b, rest⟩, hread, h⟩ := bind_eq_ok.mp h
  cases h
  -- whatever the port leaves goes in front of the path, so that the last slash still ends what is resolved first
  let left := r.drop (r.takeWhile fun c => !isSlash .web c).length
  obtain ⟨front, hfront⟩ := readPath_append (if rest.isEmpty then left else '/' :: (rest ++ left))
  have hpath : ∀ p, (if rest.isEmpty then left ++ '/' :: p else '/' :: (rest ++ (left ++ '/' :: p))) =
      (if rest.isEmpty then left else '/' :: (rest ++ left)) ++ '/' :: p := by
    intro p
    split
    · rfl
    · rw [List.cons_append, List.append_assoc]
  refine ⟨front, fun f' p => bind_eq_ok.mpr ⟨_, hread, ?_⟩⟩
  dsimp only
  rw [hpath, hfront]

theorem readMiddle_append {scheme r : List Char} {f : Bool} {a : Option Authority} {path : UrlPath}
    (h : readMiddle scheme .web f (r ++ ['/']) = .ok (a, path)) : ∃ front, ∀ f' p,
      readMiddle scheme .web f' (r ++ '/' :: p) = .ok (a, .segments (resolve front (splitSlashes .web p))) := by
  unfold readMiddle at h ⊢
  dsimp only at h ⊢
  cases hr : r.dropWhile (isSlash .web) with
  | nil =>
    rw [List.dropWhile_append, hr] at h
    cases h
  | cons c r' =>
    rw [List.dropWhile_append, hr] at h
    obtain ⟨front, hfront⟩ := readHierarchy_append h
    refine ⟨front, fun f' p => ?_⟩
    rw [List.dropWhile_append, hr]
    exact hfront f' p

/-! ### Addresses -/

/-- What stands before the query decides scheme and authority. -/
theorem readRest_eq (scheme rest : List Char) :
    readRest scheme rest =
      (readMiddle scheme (schemeKind scheme) (isFollowed rest) (beforeQuery rest)).map fun m => ⟨scheme, m.1, m.2,
        (splitAt '?' (splitAt '#' rest).1).2.map (Codec.Percent.encode (keepsInQuery (schemeKind scheme))),
        (splitAt '#' rest).2.map (Codec.Percent.encode keepsInFragment)⟩ := by
  unfold readRest isFollowed beforeQuery
  dsimp only
  cases readMiddle scheme (schemeKind scheme) ((splitAt '#' rest).2.isSome ||
    (splitAt '?' (splitAt '#' rest).1).2.isSome) (splitAt '?' (splitAt '#' rest).1).1 <;> rfl

theorem readRest_append {scheme r : List Char} {u : Url} (hk : schemeKind u.scheme = .web)
    (h : readRest scheme (r ++ ['/']) = .ok u) (p : List Char) :
    ∃ v, readRest scheme (r ++ '/' :: p) = .ok v ∧ v.scheme = u.scheme ∧ v.authority = u.authority := by
  rw [readRest_eq] at h ⊢
  obtain ⟨⟨a, path⟩, hm, rfl⟩ := map_eq_ok.mp h
  dsimp only at hk
  rw [hk] at hm ⊢
  have hmiddle : ∃ path', readMiddle scheme .web (isFollowed (r ++ '/' :: p)) (beforeQuery (r ++ '/' :: p)) =
      .ok (a, path') := by
    rcases beforeQuery_slash r with ⟨m, hb⟩ | hb
    · rw [(hb []).1, (hb []).2] at hm
      rw [(hb p).1, (hb p).2]
      exact ⟨path, hm⟩
    · rw [hb] at hm ⊢
      obtain ⟨front, hfront⟩ := readMiddle_append hm
      exact ⟨_, hfront _ _⟩
  obtain ⟨path', hm'⟩ := hmiddle
  exact ⟨_, map_eq_ok.mpr ⟨_, hm', rfl⟩, rfl, rfl⟩

/-- What the scheme and the blanks around an address leave of it, with a path behind. -/
theorem read_slash {base : String} {u : Url} (h : read (base ++ "/") = .ok u) :
    ∃ scheme r, readRest scheme (r ++ ['/']) = .ok u ∧ ∀ p, read (base ++ String.ofList ('/' :: p)) =
      readRest scheme (r ++ '/' :: dropBreaks (Text.trimEndBy (· ≤ ' ') p)) := by
  have hslash : "/".toList = '/' :: [] := rfl
  have htrimmed : dropBreaks (Text.trimEndBy (· ≤ ' ') []) = [] := rfl
  unfold read at h ⊢
  rw [String.toList_append, hslash, dropBreaks_trimControls, htrimmed] at h
  cases hs : splitScheme (dropBreaks (base.toList.dropWhile (· ≤ ' ')) ++ ['/']) with
  | none =>
    rw [hs] at h
    cases h
  | some result =>
    obtain ⟨scheme, rest⟩ := result
    rw [hs] at h
    dsimp only at h
    obtain ⟨r, rfl, -, happend⟩ := splitScheme_append hs
    refine ⟨scheme, r, h, fun p => ?_⟩
    rw [String.toList_append, String.toList_ofList, dropBreaks_trimControls, happend]

/-- **Paths behind an address.** An address of the web that can be read with a slash behind it can be read with any
path behind it, which changes neither scheme nor authority. -/
theorem read_append {base : String} {u : Url} (hk : schemeKind u.scheme = .web) (h : read (base ++ "/") = .ok u)
    (p : List Char) :
    ∃ v, read (base ++ String.ofList ('/' :: p)) = .ok v ∧ v.scheme = u.scheme ∧ v.authority = u.authority := by
  obtain ⟨scheme, r, hrest, hread⟩ := read_slash h
  rw [hread]
  exact readRest_append hk hrest _

/-! ### Paths behind an address without query and fragment -/

theorem splitAt_of_not_mem {sign : Char} {s : List Char} (h : sign ∉ s) : splitAt sign s = (s, none) := by
  have htake : s.takeWhile (· != sign) = s := by
    have hall : ∀ c ∈ s, (c != sign) = true := fun c hc => by
      rw [bne_iff_ne]
      rintro rfl
      exact h hc
    have happend : (s ++ []).takeWhile (· != sign) = s ++ [].takeWhile (· != sign) :=
      List.takeWhile_append_of_pos hall
    rwa [List.append_nil, List.takeWhile_nil, List.append_nil] at happend
  unfold splitAt
  rw [htake]
  exact congrArg _ (if_pos rfl)

theorem not_mem_of_splitAt {sign : Char} {s : List Char} (h : (splitAt sign s).2 = none) : sign ∉ s := by
  unfold splitAt at h
  dsimp only at h
  split at h
  · next hall =>
    have hne : (s.takeWhile (· != sign)).all (· != sign) = true := List.all_takeWhile
    rw [(List.takeWhile_prefix (· != sign)).eq_of_length hall] at hne
    intro hmem
    exact absurd rfl (bne_iff_ne.mp (List.all_eq_true.mp hne sign hmem))
  · cases h

theorem readRest_of_not_mem (scheme : List Char) {rest : List Char} (hf : '#' ∉ rest) (hq : '?' ∉ rest) :
    readRest scheme rest =
      (readMiddle scheme (schemeKind scheme) false rest).map fun m => ⟨scheme, m.1, m.2, none, none⟩ := by
  rw [readRest_eq, isFollowed, beforeQuery, splitAt_of_not_mem hf]
  dsimp only
  rw [splitAt_of_not_mem hq]
  rfl

/-- Without query and fragment there is no sign of either. -/
theorem not_mem_of_readRest {scheme rest : List Char} {u : Url} (h : readRest scheme rest = .ok u)
    (hq : u.query = none) (hf : u.fragment = none) : '#' ∉ rest ∧ '?' ∉ rest := by
  rw [readRest_eq] at h
  obtain ⟨m, -, rfl⟩ := map_eq_ok.mp h
  have hnone := not_mem_of_splitAt (Option.map_eq_none_iff.mp hf)
  have hrest := Option.map_eq_none_iff.mp hq
  rw [splitAt_of_not_mem hnone] at hrest
  exact ⟨hnone, not_mem_of_splitAt hrest⟩

theorem readRest_path {scheme r : List Char} {u : Url} (hk : schemeKind u.scheme = .web)
    (h : readRest scheme (r ++ ['/']) = .ok u) (hq : u.query = none) (hf : u.fragment = none) :
    ∃ front, ∀ p, '#' ∉ p → '?' ∉ p → readRest scheme (r ++ '/' :: p) =
      .ok { u with path := .segments (resolve front (splitSlashes .web p)) } := by
  -- a sign in front of the slash would have opened a fragment or a query
  have hfree := not_mem_of_readRest h hq hf
  have hfree' : ∀ {sign : Char} {p : List Char}, sign ∉ r ++ ['/'] → sign ∉ p → sign ∉ r ++ '/' :: p := by
    intro sign p hr hp
    simp only [List.mem_append, List.mem_cons, List.not_mem_nil, or_false, not_or] at hr ⊢
    exact ⟨hr.1, hr.2, hp⟩
  rw [readRest_of_not_mem scheme hfree.1 hfree.2] at h
  obtain ⟨⟨a, path⟩, hm, rfl⟩ := map_eq_ok.mp h
  dsimp only at hk
  rw [hk] at hm
  obtain ⟨front, hfront⟩ := readMiddle_append hm
  refine ⟨front, fun p hf hq => ?_⟩
  rw [readRest_of_not_mem scheme (hfree' hfree.1 hf) (hfree' hfree.2 hq), hk, hfront]
  rfl

/-- What a path does not escape is no blank. -/
theorem keepsInPath_lt {c : Char} (h : keepsInPath c = true) : ' ' < c := by
  unfold keepsInPath keepsInFragment isPlain at h
  simp only [Bool.and_eq_true, decide_eq_true_eq] at h
  exact h.1.1.1

theorem trimmed_of_keepsInPath {p : List Char} (h : ∀ c ∈ p, keepsInPath c = true) :
    dropBreaks (Text.trimEndBy (· ≤ ' ') p) = p := by
  have htrim : Text.trimEndBy (· ≤ ' ') p = p := by
    unfold Text.trimEndBy
    cases hr : p.reverse with
    | nil => exact (List.reverse_eq_nil_iff.mp hr).symm
    | cons c cs =>
      have hc : c ∈ p := List.mem_reverse.mp (hr ▸ List.mem_cons_self)
      have hlt : ¬ c ≤ ' ' := Char.not_le.mpr (keepsInPath_lt (h c hc))
      rw [List.dropWhile_cons_of_neg (by simpa using hlt), ← hr, List.reverse_reverse]
  rw [htrim, dropBreaks, List.filter_eq_self]
  intro c hc
  have hlt := keepsInPath_lt (h c hc)
  have hne : ∀ d : Char, d ≤ ' ' → (c != d) = true := by
    intro d hd
    rw [bne_iff_ne]
    rintro rfl
    exact absurd hlt (Char.not_lt.mpr hd)
  rw [hne _ (by decide), hne _ (by decide), hne _ (by decide)]
  rfl

theorem not_mem_of_keepsInPath {p : List Char} (h : ∀ c ∈ p, keepsInPath c = true) {sign : Char}
    (hsign : keepsInPath sign = false) : sign ∉ p := fun hmem => absurd (hsign.symm.trans (h sign hmem)) nofun

/-- **The path behind an address.** If an address of the web has neither query nor fragment, what is put behind a slash
at its end goes to the end of its path. -/
theorem read_path {base : String} {u : Url} (hk : schemeKind u.scheme = .web) (h : read (base ++ "/") = .ok u)
    (hq : u.query = none) (hf : u.fragment = none) :
    ∃ front, u.path = .segments (front ++ [[]]) ∧ ∀ p, (∀ c ∈ p, keepsInPath c = true) →
      read (base ++ String.ofList ('/' :: p)) =
        .ok { u with path := .segments (resolve front (splitSlashes .web p)) } := by
  obtain ⟨scheme, r, hrest, hread⟩ := read_slash h
  obtain ⟨front, hfront⟩ := readRest_path hk hrest hq hf
  have hpath : ∀ p, (∀ c ∈ p, keepsInPath c = true) → read (base ++ String.ofList ('/' :: p)) =
      .ok { u with path := .segments (resolve front (splitSlashes .web p)) } := fun p hp => by
    rw [hread, trimmed_of_keepsInPath hp]
    exact hfront p (not_mem_of_keepsInPath hp (by decide)) (not_mem_of_keepsInPath hp (by decide))
  refine ⟨front, ?_, hpath⟩
  have hself : read (base ++ "/") = _ := hpath [] fun _ hc => absurd hc List.not_mem_nil
  have hempty : resolve front (splitSlashes .web []) = front ++ [[]] :=
    resolve_of_isKept front fun s hs => List.mem_singleton.mp hs ▸ isKept_nil
  rw [h, hempty] at hself
  exact congrArg Url.path (Except.ok.inj hself)

/-- Segments that stay as they are go to the end of the path, whatever it is. -/
theorem read_segments {base : String} {u : Url} (hk : schemeKind u.scheme = .web) (h : read (base ++ "/") = .ok u)
    (hq : u.query = none) (hf : u.fragment = none) {segments : List (List Char)} (hne : segments ≠ [])
    (hkept : ∀ s ∈ segments, IsKept s) (hslash : ∀ s ∈ segments, ∀ c ∈ s, isSlash .web c = false) :
    ∃ path, read (base ++ String.ofList (UrlPath.segments segments).text) = .ok { u with path } ∧
      path.text = u.path.text ++ ['/'].intercalate segments := by
  obtain ⟨front, hfront, hpath⟩ := read_path hk h hq hf
  obtain ⟨s, rest, rfl⟩ := List.exists_cons_of_ne_nil hne
  have htext := text_segments_cons s rest
  have hall : ∀ c ∈ ['/'].intercalate (s :: rest), keepsInPath c = true := by
    intro c hc
    rcases mem_intercalate hc with rfl | ⟨t, ht, hc⟩
    · decide
    · exact (hkept t ht).all c hc
  have hread := hpath _ hall
  rw [splitSlashes_intercalate hslash, resolve_of_isKept front hkept, ← htext] at hread
  refine ⟨_, hread, ?_⟩
  rw [hfront, UrlPath.text, UrlPath.text, List.flatMap_append, List.flatMap_append, List.append_assoc]
  exact congrArg _ htext

/-! ### Hosts -/

theorem readBracketed_ne {s : List Char} {host : Host} (h : Host.readBracketed s = .ok host) : host ≠ .name [] := by
  unfold Host.readBracketed at h
  split at h
  · split at h
    · cases h
      exact nofun
    · cases h
  · cases h

theorem readWeb_ne {s : List Char} {host : Host} (h : Host.readWeb s = .ok host) : host ≠ .name [] := by
  unfold Host.readWeb at h
  split at h
  · exact readBracketed_ne h
  · split at h
    · cases h
    · cases h
    · next n hne _ =>
      split at h
      · split at h
        · cases h
          exact nofun
        · cases h
      · cases h
        intro he
        cases he
        exact hne rfl

theorem readHost_ne {s : List Char} {host : Host} (h : readHost .web s = .ok host) : host ≠ .name [] := by
  unfold readHost at h
  rw [if_neg (not_not_intro rfl)] at h
  split at h
  · cases h
  · exact readWeb_ne h

theorem readAuthority_ne {scheme s rest : List Char} {f : Bool} {a : Authority}
    (h : readAuthority scheme .web f s = .ok (a, rest)) : a.host ≠ .name [] := by
  unfold readAuthority at h
  dsimp only at h
  by_cases he : (splitUser s).1 = some [] ∧ (splitUser s).2.isEmpty ∧ f
  · rw [if_pos he] at h
    cases h
  · rw [if_neg he] at h
    obtain ⟨host, hhost, h⟩ := bind_eq_ok.mp h
    obtain ⟨port, -, h⟩ := bind_eq_ok.mp h
    by_cases hn : host = .name []
    · exact absurd hn (readHost_ne hhost)
    · rw [if_neg fun hc => hn hc.1] at h
      cases h
      exact hn

/-- **The web has hosts.** An address of the web that can be read names a host. -/
theorem hasHost_of_read {text : String} {u : Url} (hk : schemeKind u.scheme = .web) (h : read text = .ok u) :
    u.hasHost = true := by
  unfold read at h
  split at h
  · cases h
  · rw [readRest_eq] at h
    obtain ⟨⟨a, path⟩, hm, rfl⟩ := map_eq_ok.mp h
    dsimp only at hk
    rw [hk] at hm
    unfold readMiddle readHierarchy at hm
    obtain ⟨⟨b, rest⟩, hread, hm⟩ := bind_eq_ok.mp hm
    cases hm
    exact decide_eq_true (readAuthority_ne hread)

end HostingClient.Url
