import HostingClient.Proofs.Client.Run
import HostingClient.Proofs.Text.Utf8

/-! # Outcomes of operations

What comes of an operation once its own request can be sent. The rules (`Operation.Gives`) look at the kind of the
operation, at the status, and at the body and whether it is whole; they leave nothing open and never contradict each
other (`Client.perform_eq_iff`). -/

namespace HostingClient

open Text

/-! ### Kinds of operations -/

namespace Operation

/-- What an operation makes of an answer that it accepts. -/
inductive Kind where
  /-- It has no result. -/
  | nothing
  /-- It asks whether the status is a success, and accepts any. -/
  | verdict
  | text
  /-- It gets a token, which is not blank. -/
  | token
  /-- It decodes the body. -/
  | data
deriving DecidableEq

variable {α : Type}

/-- The kind of an operation. -/
def kind : {α : Type} → Operation α → Kind
  | _, validateToken _ => .verdict
  | _, createToken _ _ | _, refreshToken _ => .token
  | _, createApiKey _ | _, getSecretDecrypted _ _ | _, getBlogArticleContent _ => .text
  | _, registerUser _ _ _ | _, updateUser _ _ _ _ | _, verifyUser _ | _, resendVerificationCode => .nothing
  | _, deleteApiKey _ | _, deleteIssue _ _ | _, deleteBlogArticle _ => .nothing
  | _, createSecret _ _ _ _ | _, updateSecret _ _ _ _ | _, deleteSecret _ _ => .nothing
  | _, kvDelete _ _ _ | _, kvDeleteMultiple _ _ _ | _, kvDeleteAll _ _ => .nothing
  | _, createDashboard _ _ | _, updateDashboard _ _ _ | _, deleteDashboard _ _ => .nothing
  | _, createMetric _ | _, updateMetric _ | _, deleteMetric _ _ | _, applyTemplate _ _ => .nothing
  | _, _ => .data

/-- The one status that an operation accepts, if it does not accept every success. -/
def status? : {α : Type} → Operation α → Option Nat
  | _, registerUser _ _ _ | _, createToken _ _ | _, createMetric _ => some 201
  | _, validateUser _ _ | _, updateUser _ _ _ _ | _, verifyUser _ | _, resendVerificationCode => some 200
  | _, refreshToken _ | _, getApiKeys | _, createApiKey _ => some 200
  | _, getLatestEventsByTime _ _ _ | _, getLatestEventsByCount _ _ _ => some 200
  | _, getLatestLogsByTime _ _ _ | _, getLatestLogsByCount _ _ _ => some 200
  | _, getLatestRecordsByCount _ _ _ | _, getLatestRecordsPerMinute _ _ | _, getLatestRecordsPerHour _ _
  | _, getLatestRecordsPerDay _ _ | _, getAggregatedRecords _ _ _ => some 200
  | _, deleteApiKey _ => some 204
  | _, _ => none

/-- Whether an operation accepts a status. -/
def Accepts (op : Operation α) (code : Nat) : Prop :=
  match op.status? with
  | some expected => code = expected
  | none => 200 ≤ code ∧ code < 300

/-- Reads a list. Anything other than an array reads as an empty one. -/
def readList (d : Decoder α) (body : String) : Except DecodeFault (List α) := do
  match ← Decoder.any.run body with
  | .array items => d.list.ofValue (.array items)
  | _ => .ok []

/-- How a body is read as data. -/
def readerOf? : {α : Type} → Content α → Option (String → Except DecodeFault α)
  | _, .json d => some d.run
  | _, .listOrEmpty d => some (readList d)
  | _, _ => none

/-- How an operation reads a body as data of its type. -/
def reader? (op : Operation α) : Option (String → Except DecodeFault α) := readerOf? op.endpoint.content

/-! ### Rules -/

/-- What an operation gives for an answer with a status and a body, of which only a part came if it is cut. -/
inductive Gives (status : Nat) (body : String) (isCut : Bool) :
    {α : Type} → Operation α → Except ClientError α → Prop where
  | rejected {α : Type} {op : Operation α} (hkind : op.kind ≠ .verdict) (h : ¬ op.Accepts status) :
    Gives status body isCut op (.error (.status op.endpoint.context status (if isCut then "" else body)))
  | verdict {op : Operation Bool} (hkind : op.kind = .verdict) :
    Gives status body isCut op (.ok (decide (200 ≤ status ∧ status < 300)))
  | done {op : Operation Unit} (hkind : op.kind = .nothing) (h : op.Accepts status) :
    Gives status body isCut op (.ok ())
  | text {op : Operation String} (hkind : op.kind = .text) (h : op.Accepts status) (hcut : isCut = false) :
    Gives status body isCut op (.ok body)
  | token {op : Operation String} (hkind : op.kind = .token) (h : op.Accepts status) (hcut : isCut = false)
    (hblank : isBlankText body = false) : Gives status body isCut op (.ok body)
  | blank {op : Operation String} (hkind : op.kind = .token) (h : op.Accepts status) (hcut : isCut = false)
    (hblank : isBlankText body = true) : Gives status body isCut op (.error (.emptyBody op.endpoint.context))
  | decoded {α : Type} {op : Operation α} {read : String → Except DecodeFault α} {v : α}
    (hkind : op.reader? = some read) (h : op.Accepts status) (hcut : isCut = false) (hread : read body = .ok v) :
    Gives status body isCut op (.ok v)
  | undecoded {α : Type} {op : Operation α} {read : String → Except DecodeFault α} {f : DecodeFault}
    (hkind : op.reader? = some read) (h : op.Accepts status) (hcut : isCut = false) (hread : read body = .error f) :
    Gives status body isCut op (.error (.decode op.endpoint.context f))
  | cut {α : Type} {op : Operation α} (hkind : op.kind = .text ∨ op.kind = .token ∨ op.kind = .data)
    (h : op.Accepts status) (hcut : isCut = true) : Gives status body isCut op (.error (.request .cutBody))

end Operation

/-! ### The endpoints follow the rules -/

/-- What is made of a body, without the types. -/
def Content.kind {α : Type} : Content α → Operation.Kind
  | .ignored => .nothing
  | .verdict => .verdict
  | .text => .text
  | .nonBlank => .token
  | .json _ | .listOrEmpty _ => .data

/-- The only way of each kind, but for data. -/
def Operation.Kind.content? : Operation.Kind → Option ((α : Type) × Content α)
  | .nothing => some ⟨_, .ignored⟩
  | .verdict => some ⟨_, .verdict⟩
  | .text => some ⟨_, .text⟩
  | .token => some ⟨_, .nonBlank⟩
  | .data => none

theorem Content.eq_of_kind {α : Type} (content : Content α) {x : (α : Type) × Content α}
    (h : content.kind.content? = some x) : ⟨α, content⟩ = x := by
  cases content <;> cases h <;> rfl

namespace Operation

variable {α : Type}

theorem kind_eq (op : Operation α) : op.kind = op.endpoint.content.kind := by
  cases op <;> rfl

theorem expect_eq (op : Operation α) :
    op.endpoint.expect = op.status?.elim .success Expectation.exactly := by
  cases op <;> rfl

theorem accepts_iff {op : Operation α} (h : op.kind ≠ .verdict) {code : Nat} :
    op.endpoint.accepts code = true ↔ op.Accepts code := by
  have haccepts : op.endpoint.accepts code = op.endpoint.expect.accepts code := by
    rw [kind_eq] at h
    unfold Endpoint.accepts
    split
    · next hcontent => exact absurd (congrArg Content.kind hcontent) h
    · rfl
  rw [haccepts, expect_eq, Accepts]
  cases op.status? with
  | none => simp [Expectation.accepts, Status.isSuccess]
  | some expected => simp [Expectation.accepts]

/-- The kind of an operation decides the type of its result, but for data. -/
theorem type_eq (op : Operation α) {β : Type} (content : Content β) (h : op.kind.content? = some ⟨β, content⟩) :
    α = β :=
  (Sigma.mk.inj (op.endpoint.content.eq_of_kind (kind_eq op ▸ h))).1

theorem content_eq {op : Operation α} {content : Content α} (h : op.kind.content? = some ⟨α, content⟩) :
    op.endpoint.content = content :=
  eq_of_heq (Sigma.mk.inj (op.endpoint.content.eq_of_kind (kind_eq op ▸ h))).2

/-- An operation reads data if and only if that is its kind. -/
theorem isSome_reader? (op : Operation α) : op.reader?.isSome = true ↔ op.kind = .data := by
  rw [kind_eq, reader?]
  cases op.endpoint.content <;> simp [Content.kind, readerOf?]

/-! ### From answers to outcomes -/

variable {status : Nat} {body : String} {isCut : Bool}

/-- An answer whose body is a text. -/
def textReply (status : Nat) (body : String) (isCut : Bool) : Reply := ⟨status, Utf8.encode body.toList, isCut⟩

theorem text_textReply : (textReply status body isCut).text = body := by
  rw [Reply.text, textReply, Utf8.decodeShown_encode, String.ofList_toList]

theorem bodyText_textReply : Endpoint.bodyText (textReply status body isCut) =
    if isCut then .error (.request .cutBody) else .ok body := by
  rw [Endpoint.bodyText, text_textReply]
  rfl

theorem outcome_of_accepts {op : Operation α} (hkind : op.kind ≠ .verdict) (h : op.Accepts status) :
    op.endpoint.outcome (textReply status body isCut) =
      Endpoint.read op.endpoint.context (textReply status body isCut) op.endpoint.content :=
  if_pos ((accepts_iff hkind).mpr h)

theorem outcome_of_not_accepts {op : Operation α} (hkind : op.kind ≠ .verdict) (h : ¬ op.Accepts status) :
    op.endpoint.outcome (textReply status body isCut) =
      .error (.status op.endpoint.context status (if isCut then "" else body)) := by
  have hrejected : ¬ op.endpoint.accepts status = true := mt (accepts_iff hkind).mp h
  rw [Endpoint.outcome, text_textReply]
  exact if_neg hrejected

theorem outcome_of_verdict {op : Operation Bool} (h : op.kind = .verdict) :
    op.endpoint.outcome (textReply status body isCut) = .ok (decide (200 ≤ status ∧ status < 300)) := by
  have hcontent : op.endpoint.content = .verdict := content_eq (by rw [h]; rfl)
  have hsuccess : Status.isSuccess status = decide (200 ≤ status ∧ status < 300) := by simp [Status.isSuccess]
  unfold Endpoint.outcome Endpoint.accepts
  rw [hcontent]
  exact congrArg Except.ok hsuccess

theorem outcome_of_nothing {op : Operation Unit} (hkind : op.kind = .nothing) (h : op.Accepts status) :
    op.endpoint.outcome (textReply status body isCut) = .ok () := by
  have hcontent : op.endpoint.content = .ignored := content_eq (by rw [hkind]; rfl)
  rw [outcome_of_accepts (by rw [hkind]; nofun) h, hcontent]
  rfl

theorem outcome_of_text {op : Operation String} (hkind : op.kind = .text) (h : op.Accepts status) :
    op.endpoint.outcome (textReply status body isCut) = if isCut then .error (.request .cutBody) else .ok body := by
  have hcontent : op.endpoint.content = .text := content_eq (by rw [hkind]; rfl)
  rw [outcome_of_accepts (by rw [hkind]; nofun) h, hcontent, Endpoint.read, bodyText_textReply]

theorem outcome_of_token {op : Operation String} (hkind : op.kind = .token) (h : op.Accepts status) :
    op.endpoint.outcome (textReply status body isCut) =
      if isCut then .error (.request .cutBody)
      else if isBlankText body then .error (.emptyBody op.endpoint.context) else .ok body := by
  have hcontent : op.endpoint.content = .nonBlank := content_eq (by rw [hkind]; rfl)
  rw [outcome_of_accepts (by rw [hkind]; nofun) h, hcontent, Endpoint.read, bodyText_textReply]
  cases isCut <;> rfl

theorem decodeList_eq (context : String) (d : Decoder α) (body : String) :
    Endpoint.decodeList context d body = (readList d body).mapError (.decode context) := by
  unfold Endpoint.decodeList Endpoint.decodeBody readList
  cases Decoder.any.run body with
  | error f => rfl
  | ok j => cases j <;> rfl

theorem read_of_reader {content : Content α} {read : String → Except DecodeFault α} (h : readerOf? content = some read)
    (context : String) : Endpoint.read context (textReply status body isCut) content =
      if isCut then .error (.request .cutBody) else (read body).mapError (.decode context) := by
  cases content with
  | json d =>
    cases h
    rw [Endpoint.read, bodyText_textReply]
    cases isCut <;> rfl
  | listOrEmpty d =>
    cases h
    rw [Endpoint.read, bodyText_textReply, ← decodeList_eq]
    cases isCut <;> rfl
  | _ => cases h

/-- Data is decoded from a whole body. -/
theorem outcome_of_data {op : Operation α} {read : String → Except DecodeFault α} (hread : op.reader? = some read)
    (h : op.Accepts status) : op.endpoint.outcome (textReply status body isCut) =
      if isCut then .error (.request .cutBody) else (read body).mapError (.decode op.endpoint.context) := by
  have hkind : op.kind = .data := (isSome_reader? op).mp (by rw [hread]; rfl)
  rw [outcome_of_accepts (by rw [hkind]; nofun) h, read_of_reader hread]

/-- **Every answer has an outcome by the rules.** -/
theorem gives_outcome (op : Operation α) (status : Nat) (body : String) (isCut : Bool) :
    op.Gives status body isCut (op.endpoint.outcome (textReply status body isCut)) := by
  by_cases hrejected : op.kind ≠ .verdict ∧ ¬ op.Accepts status
  · rw [outcome_of_not_accepts hrejected.1 hrejected.2]
    exact .rejected hrejected.1 hrejected.2
  have haccepts : op.kind ≠ .verdict → op.Accepts status := fun hkind =>
    Classical.not_not.mp fun hnot => hrejected ⟨hkind, hnot⟩
  cases hkind : op.kind with
  | verdict =>
    obtain rfl : α = Bool := type_eq op .verdict (by rw [hkind]; rfl)
    rw [outcome_of_verdict hkind]
    exact .verdict hkind
  | nothing =>
    obtain rfl : α = Unit := type_eq op .ignored (by rw [hkind]; rfl)
    have h := haccepts (by rw [hkind]; nofun)
    rw [outcome_of_nothing hkind h]
    exact .done hkind h
  | text =>
    obtain rfl : α = String := type_eq op .text (by rw [hkind]; rfl)
    have h := haccepts (by rw [hkind]; nofun)
    rw [outcome_of_text hkind h]
    cases isCut with
    | true => exact .cut (.inl hkind) h rfl
    | false => exact .text hkind h rfl
  | token =>
    obtain rfl : α = String := type_eq op .nonBlank (by rw [hkind]; rfl)
    have h := haccepts (by rw [hkind]; nofun)
    rw [outcome_of_token hkind h]
    cases isCut with
    | true => exact .cut (.inr (.inl hkind)) h rfl
    | false =>
      cases hblank : isBlankText body with
      | true => exact .blank hkind h rfl hblank
      | false => exact .token hkind h rfl hblank
  | data =>
    obtain ⟨read, hread⟩ := Option.isSome_iff_exists.mp ((isSome_reader? op).mpr hkind)
    have h := haccepts (by rw [hkind]; nofun)
    rw [outcome_of_data hread h]
    cases isCut with
    | true => exact .cut (.inr (.inr hkind)) h rfl
    | false =>
      cases hbody : read body with
      | ok v => exact .decoded hread h rfl hbody
      | error f => exact .undecoded hread h rfl hbody

/-- **The rules do not contradict each other.** -/
theorem outcome_of_gives {op : Operation α} {x : Except ClientError α} (h : op.Gives status body isCut x) :
    op.endpoint.outcome (textReply status body isCut) = x := by
  cases h with
  | rejected hkind h => exact outcome_of_not_accepts hkind h
  | verdict hkind => exact outcome_of_verdict hkind
  | done hkind h => exact outcome_of_nothing hkind h
  | text hkind h hcut => rw [outcome_of_text hkind h, hcut, if_neg nofun]
  | token hkind h hcut hblank => rw [outcome_of_token hkind h, hcut, hblank, if_neg nofun, if_neg nofun]
  | blank hkind h hcut hblank => rw [outcome_of_token hkind h, hcut, hblank, if_neg nofun, if_pos rfl]
  | decoded hkind h hcut hread =>
    rw [outcome_of_data hkind h, hcut, hread]
    rfl
  | undecoded hkind h hcut hread =>
    rw [outcome_of_data hkind h, hcut, hread]
    rfl
  | @cut _ op hkind h hcut =>
    subst hcut
    rcases hkind with hkind | hkind | hkind
    · obtain rfl : α = String := type_eq op .text (by rw [hkind]; rfl)
      exact outcome_of_text hkind h
    · obtain rfl : α = String := type_eq op .nonBlank (by rw [hkind]; rfl)
      exact outcome_of_token hkind h
    · obtain ⟨read, hread⟩ := Option.isSome_iff_exists.mp ((isSome_reader? op).mpr hkind)
      exact outcome_of_data hread h

end Operation

namespace Client

variable {σ α : Type} [Storage σ] {c : Client} {op : Operation α} {s mid : Surroundings σ} {r : Request}

/-- The surroundings in which an operation sends its own request: those in which a privileged one is let in, and else
those in which it is called. -/
def Reaches (c : Client) (op : Operation α) (s mid : Surroundings σ) : Prop :=
  if op.isPrivileged then c.isAuthenticated s = (.ok true, mid) else mid = s

theorem perform_of_reaches (h : c.Reaches op s mid) : c.perform op s = c.call op.endpoint mid := by
  unfold Reaches at h
  rw [← Operation.isGated_eq] at h
  split at h
  · next hgated => exact perform_admitted hgated h
  · next hgated =>
    rw [h]
    exact perform_open (Bool.eq_false_iff.mpr hgated) s

/-- **Outcomes follow the rules.** An operation whose own request can be written ends with an error of the request if
nothing comes back for it; otherwise it ends with what the rules say about the answer, and with nothing else. -/
theorem perform_eq_iff (hreach : c.Reaches op s mid) (hr : c.request op.endpoint mid.session.state.token = .ok r) :
    ((mid.peer.answer r).1 = none → (c.perform op s).1 = .error (.request (.unanswered r.url.text))) ∧
    ∀ status body isCut, (mid.peer.answer r).1 = some (Operation.textReply status body isCut) →
      ∀ x, (c.perform op s).1 = x ↔ op.Gives status body isCut x := by
  have hresult := (call_sent hr).result
  rw [perform_of_reaches hreach]
  constructor
  · intro hanswer
    rw [hresult, hanswer]
    rfl
  · intro status body isCut hanswer x
    rw [hresult, hanswer, Option.elim_some]
    constructor
    · rintro rfl
      exact op.gives_outcome status body isCut
    · exact Operation.outcome_of_gives

/-- A blank for a token. -/
theorem perform_eq_iff_blank :
    let op := Operation.createToken "ann" "secret"
    let s := { admitting with peer := ⟨[some (Operation.textReply 201 " " false)], true, true⟩ }
    onLocalhost.Reaches op s s ∧ ∃ r, onLocalhost.request op.endpoint s.session.state.token = .ok r ∧
      (s.peer.answer r).1 = some (Operation.textReply 201 " " false) ∧
      (onLocalhost.perform op s).1 = .error (.emptyBody "create token") := by
  intro op s
  have hreach : onLocalhost.Reaches op s s := by
    have hopen : op.isPrivileged = false := rfl
    simp [Reaches, hopen]
  have hanswer : ∀ r, (s.peer.answer r).1 = some (Operation.textReply 201 " " false) := fun r => by
    simp [s, Peer.answer, Peer.gets]
  have haccept : op.Accepts 201 := rfl
  obtain ⟨r, hr⟩ : ∃ r, onLocalhost.request op.endpoint s.session.state.token = .ok r :=
    exists_eq_ok (by decide +kernel)
  have hrule := (perform_eq_iff hreach hr).2 201 " " false (hanswer r) (.error (.emptyBody "create token"))
  exact ⟨hreach, r, hr, hanswer r, hrule.mpr (.blank rfl haccept rfl (by decide))⟩

end Client

end HostingClient
