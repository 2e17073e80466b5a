import HostingClient.Proofs.Json.Rearranged
import HostingClient.Proofs.Json.Written
import HostingClient.Resource.Maven

/-! # Answers of newer servers

A server may know more of a record than the client and write it in an order of its own. The client reads the same
record from it, as long as no name that it knows is repeated (`Record.run_rearranged`). -/

namespace HostingClient

open HostingClient.Json

/-- **Order and unknown members do not count.** Whatever text a record is read from, it is read as well from every text
that has the members in another order and further members of unknown names, in the record itself and in all records
inside it. A text in which one of these records has a known name twice is refused. -/
theorem Record.run_rearranged {α : Type} (r : Record α) {t t' : Tree} {text text' : String}
    (ht : SpellsDocument t (symbolsOf text.toList)) (ht' : SpellsDocument t' (symbolsOf text'.toList)) :
    (Rearranges r.codec t.outline t'.outline → ∀ v, r.decode.run text = .ok v → r.decode.run text' = .ok v) ∧
      (Repeats r.codec t'.outline → ∀ v, r.decode.run text' ≠ .ok v) := by
  rw [Decoder.run_spelled _ ht, Decoder.run_spelled _ ht']
  exact ⟨fun h v hv => h.decode hv, fun h v => h.decode_ne⟩

/-! ### A newer server -/

/-- The members of an artifact, given those of the file of its version. -/
def artifactMembers (version : List (String × Json)) : List (String × Json) :=
  [("space_id", .text "s1"), ("repository", .text "releases"), ("group", .text "net.demo"), ("id", .text "core"),
    ("versions", .array [.object version])]

/-- The members of a version, given those of its file. -/
def versionMembers (file : List (String × Json)) : List (String × Json) :=
  [("version", .text "1.0"), ("published_at", .text "2024-12-24T18:00:00Z"), ("files", .array [.object file])]

/-- The members of a file. -/
def fileMembers : List (String × Json) :=
  [("name", .text "core.jar"), ("size", .number (.int 7)), ("url", .text "https://cdn.test/core.jar")]

/-- An artifact as a server of today writes it. -/
def artifactToday : Json := .object (artifactMembers (versionMembers fileMembers))

/-- The artifact as a newer server writes it: from the end, and with more to each part. -/
def artifactTomorrow : Json :=
  let file := ("sha256", .null) :: fileMembers.reverse
  let version := ("yanked", .bool false) :: (versionMembers file).reverse
  .object (("stars", .array [.text "many"]) :: ("stars", .number (.int 2)) :: (artifactMembers version).reverse)

/-- The artifact with its id twice. -/
def artifactTwice : Json := .object (("id", .null) :: artifactMembers (versionMembers fileMembers))

/-- The artifact that is read. -/
def readArtifact : MavenArtifact :=
  { spaceId := "s1", repository := "releases", group := "net.demo", id := "core",
    versions := [{ version := "1.0", publishedAt := ⟨1735063200, 0⟩,
                   files := [{ name := "core.jar", size := 7, url := "https://cdn.test/core.jar" }] }] }

/-- The members of an object, from the end. -/
theorem rearranges_reverse {τ : Type} {fs : Fields τ} {ms ms' : List (Key × Outline)}
    (h : RearrangesMembers fs ms.reverse ms') : RearrangesMembers fs ms ms' :=
  .trans (.order (List.reverse_perm ms).symm) h

theorem rearranges_file : Rearranges MavenArtifactFile.record.codec (.object (memberOutlines fileMembers) none)
    (.object (memberOutlines (("sha256", .null) :: fileMembers.reverse)) none) :=
  .object (rearranges_reverse (.unknown (by decide) rfl))

theorem rearranges_version : Rearranges MavenArtifactVersion.record.codec
    (.object (memberOutlines (versionMembers fileMembers)) none)
    (.object (memberOutlines (("yanked", .bool false) ::
      (versionMembers (("sha256", .null) :: fileMembers.reverse)).reverse)) none) := by
  refine .object (rearranges_reverse (.trans (.value ?_) (.unknown (by decide) rfl)))
  exact .later (by decide) (.later (by decide) (.first (.list (.cons rearranges_file .nil))))

theorem rearranges_artifact :
    Rearranges MavenArtifact.record.codec (outline artifactToday) (outline artifactTomorrow) := by
  refine .object (rearranges_reverse (.trans (.value ?_) (.trans (.unknown ?_ rfl) (.unknown ?_ rfl))))
  · exact .later (by decide) (.later (by decide) (.later (by decide) (.later (by decide)
      (.first (.list (.cons rearranges_version .nil))))))
  all_goals decide

theorem repeats_artifact : Repeats MavenArtifact.record.codec (outline artifactTwice) := by
  have hms : (memberOutlines (("id", .null) :: artifactMembers (versionMembers fileMembers))).Perm
      ((.text "id", .null) :: (.text "id", .text (.ok "core")) ::
        memberOutlines ((artifactMembers (versionMembers fileMembers)).eraseIdx 3)) :=
    List.Perm.cons _ (@List.perm_middle _ _ (memberOutlines ((artifactMembers (versionMembers fileMembers)).take 3)) _)
  exact .name (by decide) hms

/-- The trees of the three texts, and what is read of them. -/
theorem Record.run_rearranged_artifact : ∃ t t' t'',
    (SpellsDocument t (symbolsOf artifactToday.compact.toList) ∧
        SpellsDocument t' (symbolsOf artifactTomorrow.compact.toList) ∧
        SpellsDocument t'' (symbolsOf artifactTwice.compact.toList)) ∧
      (Rearranges MavenArtifact.record.codec t.outline t'.outline ∧
        MavenArtifact.record.decode.run artifactToday.compact = .ok readArtifact ∧
        Repeats MavenArtifact.record.codec t''.outline) ∧
      MavenArtifact.record.decode.run artifactTomorrow.compact = .ok readArtifact ∧
      ∀ v, MavenArtifact.record.decode.run artifactTwice.compact ≠ .ok v := by
  have hwhole : Whole artifactToday ∧ Whole artifactTomorrow ∧ Whole artifactTwice := by
    simp [artifactToday, artifactTomorrow, artifactTwice, artifactMembers, versionMembers, fileMembers, Whole,
      WholeMembers, WholeItems, FitsWord, greatestWord, leastWord]
  obtain ⟨t, ht, ho⟩ := exists_spells_compact hwhole.1
  obtain ⟨t', ht', ho'⟩ := exists_spells_compact hwhole.2.1
  obtain ⟨t'', ht'', ho''⟩ := exists_spells_compact hwhole.2.2
  have hsame : Rearranges MavenArtifact.record.codec t.outline t'.outline := ho ▸ ho' ▸ rearranges_artifact
  have htwice : Repeats MavenArtifact.record.codec t''.outline := ho'' ▸ repeats_artifact
  have hread : MavenArtifact.record.decode.run artifactToday.compact = .ok readArtifact := by
    rw [Decoder.run_compact _ hwhole.1]
    rfl
  exact ⟨t, t', t'', ⟨ht, ht', ht''⟩, ⟨hsame, hread, htwice⟩,
    (MavenArtifact.record.run_rearranged ht ht').1 hsame _ hread,
    (MavenArtifact.record.run_rearranged ht ht'').2 htwice⟩

end HostingClient
