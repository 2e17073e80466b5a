import HostingClient.Proofs.Client.Classification
import HostingClient.Proofs.Json.FreeForm
import HostingClient.Proofs.Resource.Newer

/-! # Lists of an owner

The articles of a space and the artifacts of a repository are read in two steps, so that an answer that is not a list
counts as an empty one. If it is a list, what is read is what is read in one step, but for names that are repeated
(`Operation.outcome_listing`). -/

namespace HostingClient

open HostingClient.Json

/-! ### The records that are listed -/

theorem MavenArtifactFile.tidy : MavenArtifactFile.record.codec.decode.Tidy :=
  Record.tidy (by simp [record, Fields.Tidy, Field.required])

theorem MavenArtifactVersion.tidy : MavenArtifactVersion.record.codec.decode.Tidy :=
  Record.tidy (by simp [record, Fields.Tidy, Field.required, Field.defaulted, MavenArtifactFile.tidy])

theorem MavenArtifact.tidy : MavenArtifact.record.decode.Tidy :=
  Record.tidy (by simp [record, Fields.Tidy, Field.required, Field.defaulted, MavenArtifactVersion.tidy])

theorem BlogArticle.tidy : BlogArticle.record.decode.Tidy :=
  Record.tidy (by simp [record, Fields.Tidy, Field.required, Field.defaulted])

/-- Whether a list that is read in two steps is read with a decoder that does not see it. -/
def Content.ListsTidy {β : Type} : Content β → Prop
  | .listOrEmpty d => d.Tidy
  | _ => True

theorem Operation.listsTidy {β : Type} (op : Operation β) : op.endpoint.content.ListsTidy := by
  cases op with
  | getAllMavenArtifacts => exact MavenArtifact.tidy
  | getBlogArticlesForSpace => exact BlogArticle.tidy
  | _ => trivial

/-! ### Lists in two steps -/

namespace Endpoint
variable {α : Type} {d : Decoder α} {context body : String} {j : Json} {l : List α}

theorem decodeList_of_array {items : List Json} (h : Decoder.any.run body = .ok (.array items)) :
    decodeList context d body = (d.list.ofValue (.array items)).mapError (.decode context) := by
  rw [decodeList, decodeBody, h]
  rfl

theorem decodeList_of_other (h : Decoder.any.run body = .ok j) (hj : ∀ items, j ≠ .array items) :
    decodeList context d body = .ok [] := by
  rw [decodeList, decodeBody, h]
  cases j with
  | array items => exact absurd rfl (hj items)
  | _ => rfl

theorem decodeList_of_error {f : DecodeFault} (h : Decoder.any.run body = .error f) :
    decodeList context d body = .error (.decode context f) := by
  rw [decodeList, decodeBody, h]
  rfl

/-- An array without repeated names that is read in two steps is read in one. -/
theorem run_of_decodeList (hd : d.Tidy) {ts : List Tree} (ht : SpellsDocument (.array ts) (symbolsOf body.toList))
    (hnames : (Tree.array ts).outline.Unrepeated) (hl : decodeList context d body = .ok l) :
    d.list.run body = .ok l := by
  cases hj : Decoder.any.run body with
  | error f => rw [decodeList_of_error hj] at hl; cases hl
  | ok j =>
    have harray : Decoder.any .ofText (Tree.array ts).outline = .ok j := by
      rwa [← Decoder.run_spelled Decoder.any ht]
    obtain ⟨items, -, hrest⟩ := bind_eq_ok.mp harray
    cases hrest
    rw [decodeList_of_array hj] at hl
    exact hd.list.run_of_ofValue ht hnames hj (mapError_eq_ok.mp hl)

/-- What is read in one step is read in two, if it has a free-form value at all. -/
theorem decodeList_of_run (hd : d.Tidy) (hj : Decoder.any.run body = .ok j) (hl : d.list.run body = .ok l) :
    decodeList context d body = .ok l := by
  have hvalue := hd.list.ofValue_of_run hj hl
  cases j with
  | array items =>
    rw [decodeList_of_array hj, hvalue]
    rfl
  | _ => cases hvalue

/-! ### Answers -/

theorem received_eq_ok {accepted : Bool} {e : ClientError} {r : Reply} {f : String → Except ClientError α} {a : α} :
    (if accepted then bodyText r >>= f else .error e) = .ok a ↔
      accepted = true ∧ r.isCut = false ∧ f r.text = .ok a := by
  cases accepted with
  | false => exact iff_of_false (fun h => by cases h) fun h => by cases h.1
  | true =>
    rw [if_pos rfl, bodyText]
    cases r.isCut with
    | true => exact iff_of_false (fun h => by cases h) fun h => by cases h.2.1
    | false => exact ⟨fun h => ⟨rfl, rfl, h⟩, fun h => h.2.2⟩

variable {e : Endpoint (List α)} {r : Reply}

/-- The call that reads its list in one step. -/
def direct (e : Endpoint (List α)) (d : Decoder α) : Endpoint (List α) := { e with content := .json d.list }

theorem outcome_direct_eq_ok : (e.direct d).outcome r = .ok l ↔
    e.expect.accepts r.status = true ∧ r.isCut = false ∧ d.list.run r.text = .ok l := by
  have hread : (e.direct d).outcome r = .ok l ↔ e.expect.accepts r.status = true ∧ r.isCut = false ∧
      decodeBody e.context d.list r.text = .ok l := received_eq_ok
  rw [hread, decodeBody, mapError_eq_ok]

theorem accepts_listOrEmpty (he : e.content = .listOrEmpty d) (code : Nat) :
    e.accepts code = e.expect.accepts code := by
  cases e
  cases he
  rfl

theorem outcome_listOrEmpty (he : e.content = .listOrEmpty d) : e.outcome r =
    if e.expect.accepts r.status then bodyText r >>= decodeList e.context d
    else .error (.status e.context r.status (if r.isCut then "" else r.text)) := by
  cases e
  cases he
  rfl

end Endpoint

/-- The articles of an author are read in one step, and otherwise as those of a space. -/
theorem Operation.outcome_getBlogArticlesForUser (userId spaceId : String) (r : Reply) :
    (getBlogArticlesForUser userId).endpoint.outcome r =
      ((getBlogArticlesForSpace spaceId).endpoint.direct BlogArticle.record.decode).outcome r := rfl

/-- **Both ways of reading a list agree.** What a call that lists in two steps reads of an array without repeated names
is what it would read in one step, and what it would read in one step of any body with a free-form value is what it
reads. A body with another free-form value is the empty list, and one without any is an error. -/
theorem Operation.outcome_listing {α : Type} {op : Operation (List α)} {d : Decoder α}
    (hop : op.endpoint.content = .listOrEmpty d) (r : Reply) :
    (∀ ts l, SpellsDocument (.array ts) (symbolsOf r.text.toList) → (Tree.array ts).outline.Unrepeated →
        op.endpoint.outcome r = .ok l → (op.endpoint.direct d).outcome r = .ok l) ∧
      (∀ j l, Decoder.any.run r.text = .ok j → (op.endpoint.direct d).outcome r = .ok l →
        op.endpoint.outcome r = .ok l) ∧
      (op.endpoint.accepts r.status = true → r.isCut = false →
        (∀ j, Decoder.any.run r.text = .ok j → (∀ items, j ≠ .array items) → op.endpoint.outcome r = .ok []) ∧
        ∀ f, Decoder.any.run r.text = .error f →
          op.endpoint.outcome r = .error (.decode op.endpoint.context f)) := by
  have hd : d.Tidy := by
    have htidy := op.listsTidy
    rwa [hop] at htidy
  rw [Endpoint.outcome_listOrEmpty hop]
  refine ⟨fun ts l ht hnames hl => ?_, fun j l hj hl => ?_, fun haccepts hcut => ?_⟩
  · obtain ⟨haccepts, hcut, hl⟩ := Endpoint.received_eq_ok.mp hl
    exact Endpoint.outcome_direct_eq_ok.mpr ⟨haccepts, hcut, Endpoint.run_of_decodeList hd ht hnames hl⟩
  · obtain ⟨haccepts, hcut, hl⟩ := Endpoint.outcome_direct_eq_ok.mp hl
    exact Endpoint.received_eq_ok.mpr ⟨haccepts, hcut, Endpoint.decodeList_of_run hd hj hl⟩
  · have haccepts : op.endpoint.expect.accepts r.status = true := by
      rwa [Endpoint.accepts_listOrEmpty hop] at haccepts
    have hbody : Endpoint.bodyText r = .ok r.text := by rw [Endpoint.bodyText, hcut]; rfl
    rw [if_pos haccepts, hbody]
    exact ⟨fun j hj hother => Endpoint.decodeList_of_other hj hother, fun f hf => Endpoint.decodeList_of_error hf⟩

/-- An artifact that is written from the end, with a member of its own, and with its version as an array. -/
def listedArtifact : Json := .object
  [("versions", .array [.array [.text "1.0", .text "2024-12-24T18:00:00Z", .array [.object fileMembers.reverse]]]),
    ("stars", .null), ("id", .text "core"), ("group", .text "net.demo"), ("repository", .text "releases"),
    ("space_id", .text "s1")]

/-- A list of an artifact, none at all, and an answer that ends too early. -/
theorem Operation.outcome_listing_artifacts :
    let op := Operation.getAllMavenArtifacts "s1" "releases"
    let listed := textReply 200 (Json.array [listedArtifact]).compact false
    let none := textReply 200 "null" false
    let cut := textReply 200 "[" false
    (∃ ts j, SpellsDocument (.array ts) (symbolsOf listed.text.toList) ∧ (Tree.array ts).outline.Unrepeated ∧
        Decoder.any.run listed.text = .ok j) ∧
      op.endpoint.outcome listed = .ok [readArtifact] ∧
      (op.endpoint.direct MavenArtifact.record.decode).outcome listed = .ok [readArtifact] ∧
      (op.endpoint.accepts 200 = true ∧ Decoder.any.run none.text = .ok .null ∧
        Decoder.any.run cut.text = .error (.unreadable .ended)) ∧
      op.endpoint.outcome none = .ok [] ∧
      op.endpoint.outcome cut = .error (.decode "fetch maven artifacts" (.unreadable .ended)) := by
  intro op listed none cut
  have hop : op.endpoint.content = .listOrEmpty MavenArtifact.record.decode := rfl
  have hwhole : Whole (.array [listedArtifact]) := by
    simp [listedArtifact, fileMembers, Whole, WholeMembers, WholeItems, FitsWord, greatestWord, leastWord]
  have htext : listed.text = (Json.array [listedArtifact]).compact := text_textReply
  obtain ⟨t, ht, ho⟩ := exists_spells_compact hwhole
  obtain ⟨ts, rfl⟩ : ∃ ts, t = .array ts := by
    cases t with
    | array ts => exact ⟨ts, rfl⟩
    | _ => cases ho
  have hnames : (Tree.array ts).outline.Unrepeated := by
    rw [ho]
    simp [listedArtifact, fileMembers, outline, outlines, memberOutlines, Outline.Unrepeated,
      Outline.UnrepeatedItems, Outline.UnrepeatedMembers]
  have hj : ∃ j, Decoder.any.run listed.text = .ok j := by
    rw [htext, Decoder.run_compact _ hwhole]
    exact exists_eq_ok (by decide +kernel)
  have hdirect : (op.endpoint.direct MavenArtifact.record.decode).outcome listed = .ok [readArtifact] := by
    refine Endpoint.outcome_direct_eq_ok.mpr ⟨rfl, rfl, ?_⟩
    rw [htext, Decoder.run_compact _ hwhole]
    rfl
  obtain ⟨j, hj⟩ := hj
  have hlisted : op.endpoint.outcome listed = .ok [readArtifact] := (outcome_listing hop listed).2.1 j _ hj hdirect
  have hnull : Decoder.any.run none.text = .ok .null := by
    rw [text_textReply]
    rfl
  have hcut : Decoder.any.run cut.text = .error (.unreadable .ended) := by
    rw [text_textReply]
    rfl
  rw [← htext] at ht
  exact ⟨⟨ts, j, ht, hnames, hj⟩, hlisted, (outcome_listing hop listed).1 ts _ ht hnames hlisted,
    ⟨rfl, hnull, hcut⟩, ((outcome_listing hop none).2.2 rfl rfl).1 _ hnull (fun _ h => by cases h),
    ((outcome_listing hop cut).2.2 rfl rfl).2 _ hcut⟩

end HostingClient
