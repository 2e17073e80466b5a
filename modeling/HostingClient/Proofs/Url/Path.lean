import HostingClient.Proofs.Codec.Percent
import HostingClient.Url.Reader

/-! # Paths put together

What stands before a slash is resolved on its own, so that segments behind it are put behind what comes of it
(`readPath_append`). Segments that hold no slash and are not dots stay as they are; escaped texts are such segments,
unless they are one or two dots themselves (`isKept_segment`). -/

namespace HostingClient.Url

open Codec Text

/-! ### Splitting and resolving -/

theorem splitSlashes_eq (kind : SchemeKind) : ∀ s : List Char, splitSlashes kind s = s.splitOnP (isSlash kind)
  | [] => List.splitOnP_nil.symm
  | c :: s => by
    rw [splitSlashes, splitSlashes_eq kind s, List.splitOnP_cons_eq_if_modifyHead]
    split
    · rfl
    · cases h : s.splitOnP (isSlash kind) with
      | nil => exact absurd h (List.splitOnP_ne_nil _ s)
      | cons p ps => rfl

theorem isSlash_slash (kind : SchemeKind) : isSlash kind '/' = true := rfl

theorem splitSlashes_append (kind : SchemeKind) (a b : List Char) :
    splitSlashes kind (a ++ '/' :: b) = splitSlashes kind a ++ splitSlashes kind b := by
  rw [splitSlashes_eq, splitSlashes_eq, splitSlashes_eq, List.splitOnP_append_cons a b (isSlash_slash kind)]

theorem splitSlashes_ne_nil (kind : SchemeKind) (s : List Char) : splitSlashes kind s ≠ [] := by
  rw [splitSlashes_eq]
  exact List.splitOnP_ne_nil _ s

/-- What comes of some segments does not depend on those behind them. -/
theorem resolve_append : ∀ (segments done : List (List Char)),
    ∃ front, ∀ rest, rest ≠ [] → resolve done (segments ++ rest) = resolve front rest
  | [], done => ⟨done, fun _ _ => rfl⟩
  | s :: segments, done => by
    -- dots in front of other segments leave no empty segment in their place
    have hlast : ∀ rest : List (List Char), rest ≠ [] → (segments ++ rest).isEmpty = false := fun rest hrest => by
      rw [List.isEmpty_eq_false_iff]
      exact List.append_ne_nil_of_right_ne_nil segments hrest
    by_cases hone : dots s = some 1
    · obtain ⟨front, hfront⟩ := resolve_append segments (done ++ [])
      refine ⟨front, fun rest hrest => ?_⟩
      rw [List.cons_append, resolve, if_pos hone, hlast rest hrest]
      exact hfront rest hrest
    by_cases htwo : dots s = some 2
    · obtain ⟨front, hfront⟩ := resolve_append segments (done.dropLast ++ [])
      refine ⟨front, fun rest hrest => ?_⟩
      rw [List.cons_append, resolve, if_neg hone, if_pos htwo, hlast rest hrest]
      exact hfront rest hrest
    · obtain ⟨front, hfront⟩ := resolve_append segments (done ++ [Percent.encode keepsInPath s])
      refine ⟨front, fun rest hrest => ?_⟩
      rw [List.cons_append, resolve, if_neg hone, if_neg htwo]
      exact hfront rest hrest

/-- **What stands before a slash is resolved on its own.** -/
theorem readPath_append (before : List Char) : ∃ front, ∀ p,
    readPath .web (before ++ '/' :: p) = .segments (resolve front (splitSlashes .web p)) := by
  cases before with
  | nil => exact ⟨[], fun _ => rfl⟩
  | cons c s =>
    obtain ⟨front, hfront⟩ := resolve_append (splitSlashes .web (if isSlash .web c then s else c :: s)) []
    refine ⟨front, fun p => ?_⟩
    have hsplit : (if isSlash .web c then s ++ '/' :: p else c :: (s ++ '/' :: p)) =
        (if isSlash .web c then s else c :: s) ++ '/' :: p := by
      split <;> rfl
    rw [List.cons_append, readPath, readSegments, hsplit, splitSlashes_append,
      hfront _ (splitSlashes_ne_nil .web p)]

/-! ### Segments that stay -/

/-- A segment that is not resolved and in which nothing is escaped. -/
structure IsKept (s : List Char) : Prop where
  one : dots s ≠ some 1
  two : dots s ≠ some 2
  all : ∀ c ∈ s, keepsInPath c = true

theorem isKept_nil : IsKept [] := ⟨by decide, by decide, fun _ hc => absurd hc List.not_mem_nil⟩

theorem resolve_of_isKept : ∀ {segments : List (List Char)} (front : List (List Char)),
    (∀ s ∈ segments, IsKept s) → resolve front segments = front ++ segments
  | [], front, _ => (List.append_nil front).symm
  | s :: segments, front, h => by
    obtain ⟨hone, htwo, hall⟩ := h s List.mem_cons_self
    rw [resolve, if_neg hone, if_neg htwo, Percent.encode_of_all hall,
      resolve_of_isKept _ fun t ht => h t (List.mem_cons_of_mem s ht), List.append_assoc, List.singleton_append]

/-- Segments behind a slash each. -/
theorem text_segments_cons (s : List Char) : ∀ segments : List (List Char),
    (UrlPath.segments (s :: segments)).text = '/' :: ['/'].intercalate (s :: segments)
  | [] => by simp [UrlPath.text]
  | t :: segments => by
    have ih : (t :: segments).flatMap ('/' :: ·) = '/' :: ['/'].intercalate (t :: segments) :=
      text_segments_cons t segments
    rw [List.intercalate_cons_cons, UrlPath.text, List.flatMap_cons, ih]
    simp

theorem mem_intercalate {c : Char} : ∀ {segments : List (List Char)}, c ∈ ['/'].intercalate segments →
    c = '/' ∨ ∃ s ∈ segments, c ∈ s
  | [], h => absurd h List.not_mem_nil
  | [s], h => .inr ⟨s, List.mem_cons_self, by rwa [List.intercalate_singleton] at h⟩
  | s :: t :: segments, h => by
    rw [List.intercalate_cons_cons, List.append_assoc] at h
    rcases List.mem_append.mp h with h | h
    · exact .inr ⟨s, List.mem_cons_self, h⟩
    · rcases List.mem_cons.mp h with h | h
      · exact .inl h
      · rcases mem_intercalate h with h | ⟨u, hu, h⟩
        · exact .inl h
        · exact .inr ⟨u, List.mem_cons_of_mem s hu, h⟩

theorem splitSlashes_intercalate {kind : SchemeKind} {s : List Char} :
    ∀ {segments : List (List Char)}, (∀ t ∈ s :: segments, ∀ c ∈ t, isSlash kind c = false) →
      splitSlashes kind (['/'].intercalate (s :: segments)) = s :: segments
  | [], h => by
    rw [splitSlashes_eq, List.intercalate_singleton]
    exact List.splitOnP_eq_singleton (h s List.mem_cons_self)
  | t :: segments, h => by
    have hs : splitSlashes kind s = [s] := by
      rw [splitSlashes_eq]
      exact List.splitOnP_eq_singleton (h s List.mem_cons_self)
    rw [List.intercalate_cons_cons, List.append_assoc, List.singleton_append, splitSlashes_append, hs,
      splitSlashes_intercalate fun u hu => h u (List.mem_cons_of_mem s hu), List.singleton_append]

/-! ### Dots -/

theorem decode_of_dots : ∀ {s : List Char} {n : Nat}, dots s = some n →
    Percent.decode s = Utf8.encode (List.replicate n '.') := by
  intro s
  fun_induction dots s with
  | case1 =>
    intro n h
    cases h
    rfl
  | case2 s ih =>
    intro n h
    obtain ⟨m, hm, rfl⟩ := Option.map_eq_some_iff.mp h
    rw [Percent.decode_cons (by decide), ih hm, List.replicate_succ]
    rfl
  | case3 s ih =>
    intro n h
    obtain ⟨m, hm, rfl⟩ := Option.map_eq_some_iff.mp h
    rw [Percent.decode, List.replicate_succ]
    exact congrArg _ (ih hm)
  | case4 s ih =>
    intro n h
    obtain ⟨m, hm, rfl⟩ := Option.map_eq_some_iff.mp h
    rw [Percent.decode, List.replicate_succ]
    exact congrArg _ (ih hm)
  | case5 s =>
    intro n h
    cases h

/-- An escaped text that reads as dots is made of dots. -/
theorem eq_of_dots_segment {s : List Char} {n : Nat} (h : dots (Percent.segment s) = some n) :
    s = List.replicate n '.' := by
  -- both read back, to the dots and to the text
  have hdecode := decode_of_dots h
  have hback := Percent.decode?_segment s
  rw [hdecode, Utf8.decode?_encode] at hback
  exact (Option.some.inj hback).symm

theorem isKept_segment {s : List Char} (hone : s ≠ ['.']) (htwo : s ≠ ['.', '.']) : IsKept (Percent.segment s) where
  one h := hone (eq_of_dots_segment h)
  two h := htwo (eq_of_dots_segment h)
  all _ := Percent.of_mem_segment (by decide)

theorem isSlash_of_mem_segment {s : List Char} {c : Char} (h : c ∈ Percent.segment s) : isSlash .web c = false := by
  have hnot : (!isSlash .web c) = true := Percent.of_mem_segment (p := fun c => !isSlash .web c) (by decide) h
  simpa using hnot

end HostingClient.Url
