import Mathlib.Data.List.Basic
import HostingClient.Proofs.Codec.Percent
import HostingClient.Url.Basic

/-! # Queries

Names and values in an address are read back: no name and no value can add another one or take one away, since both
are escaped as form data (`formText_injective`). -/

namespace HostingClient.Url

open Codec

/-! ### Form data -/

/-- A name and its value. -/
def pairText (p : List Char × List Char) : List Char := Percent.form p.1 ++ '=' :: Percent.form p.2

theorem pairText_injective {p q : List Char × List Char} (h : pairText p = pairText q) : p = q := by
  have hfree : ∀ s, '=' ∉ Percent.form s := Percent.not_mem_form (by decide)
  obtain ⟨hname, -, hvalue⟩ := (List.append_cons_inj_of_notMem (hfree p.1) (hfree p.2)).mp h
  exact Prod.ext (Percent.form_injective hname) (Percent.form_injective hvalue)

theorem not_mem_pairText (p : List Char × List Char) : '&' ∉ pairText p := by
  have hfree : ∀ s, '&' ∉ Percent.form s := Percent.not_mem_form (by decide)
  simp [pairText, hfree]

/-- Pairs are told apart by the signs between them. -/
theorem splitOn_formText {pairs : List (List Char × List Char)} (hne : pairs ≠ []) :
    (formText pairs).splitOn '&' = pairs.map pairText := by
  refine List.splitOn_intercalate '&' (fun text htext => ?_) (mt List.map_eq_nil_iff.mp hne)
  obtain ⟨p, -, rfl⟩ := List.mem_map.mp htext
  exact not_mem_pairText p

/-- **Different names and values are different form data.** -/
theorem formText_injective {pairs others : List (List Char × List Char)} (hne : pairs ≠ []) (hne' : others ≠ [])
    (h : formText pairs = formText others) : pairs = others := by
  have hmap := splitOn_formText hne
  rw [h, splitOn_formText hne'] at hmap
  exact (List.map_injective_iff.mpr (fun _ _ => pairText_injective) hmap).symm

/-! ### Queries in addresses -/

/-- The query of an address that has none but the one that is put there. -/
def queryText (pairs : List (List Char × List Char)) : List Char :=
  if pairs.isEmpty then [] else '?' :: formText pairs

theorem queryText_injective {pairs others : List (List Char × List Char)} (h : queryText pairs = queryText others) :
    pairs = others := by
  unfold queryText at h
  split at h
  · next he =>
    split at h
    · next he' => rw [List.isEmpty_iff.mp he, List.isEmpty_iff.mp he']
    · cases h
  · next he =>
    split at h
    · cases h
    · next he' =>
      rw [List.isEmpty_iff] at he he'
      exact formText_injective he he' (List.cons.inj h).2

/-- The text of an address of a host with a path and a query of its own. -/
theorem text_addQuery {u : Url} {a : Authority} (ha : u.authority = some a) (hq : u.query = none)
    (hf : u.fragment = none) (path : UrlPath) (pairs : List (List Char × List Char)) :
    ({ u with path }.addQuery pairs).text = String.ofList (u.origin ++ path.text ++ queryText pairs) := by
  unfold addQuery queryText
  cases pairs with
  | nil => simp [text, resource, origin, ha, hq, hf]
  | cons p rest => simp [text, resource, origin, ha, hq, hf]

end HostingClient.Url
