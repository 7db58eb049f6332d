import Glean.Proofs.FileTree
import Glean.Proofs.JsonReader
import Glean.Proofs.Utf8
import Glean.Report.File

set_option autoImplicit false

/-!
# Reading JSON report files

Nothing that tells two lists of records apart is lost in a JSON report, whether it is kept as a text
or written to a file.
-/
namespace Glean.Report

theorem toList_render_json (records : List Record) :
    (render .json records).toList = Json.encode records := by
  rw [render, String.toList_ofList]

theorem head?_fileBytes_json (records : List Record) :
    (fileBytes .json records).head? = some 0x5B := by
  have hopen : ∃ tail, Json.encode records = '[' :: tail := by
    cases records with
    | nil => exact ⟨_, rfl⟩
    | cons r records => exact ⟨_, rfl⟩
  have hbytes : String.utf8EncodeChar '[' = [0x5B] := by decide
  obtain ⟨tail, htail⟩ := hopen
  rw [fileBytes, fileText, render, Text.toList_toUTF8, htail, List.flatMap_cons, hbytes]
  rfl

/-- What is written as a JSON report and read as JSON again are the same records in the same order:
in a text, and in a file, which begins with no mark. -/
theorem json_read_back :
    (∀ records, Json.decode (render .json records).toList = some records) ∧
    ∀ t path records u, write t path .json records = .ok u →
      ∃ body, u.read? path = some body ∧ body.head? = some 0x5B ∧
        (Text.decodeExact body).bind Json.decode = some records := by
  refine ⟨?_, ?_⟩
  · intro records
    rw [toList_render_json, Json.decode_encode]
  · intro t path records u h
    unfold write at h
    split at h
    · rename_i made hmade
      rw [Except.ok.injEq] at h
      subst h
      refine ⟨fileBytes .json records, t.read?_of_write _ path _ hmade,
        head?_fileBytes_json records, ?_⟩
      rw [fileBytes, fileText, render, Text.decodeExact_toUTF8, Option.bind_some,
        Json.decode_encode]
    · contradiction

/-- Quotes, backslashes and control characters, and the greatest line number. -/
theorem json_read_back_escapes :
    let records : List Record :=
      [⟨"a\"\\\x7f", 18446744073709551615, .markup, "中\",\r\n\t\x01\x1f😀"⟩, ⟨"", 0, .script, ""⟩]
    ∃ u body, write {} "out/a.json" .json records = .ok u ∧
      u.read? "out/a.json" = some body ∧ body.head? = some 0x5B ∧
      (Text.decodeExact body).bind Json.decode = some records := by
  intro records
  obtain ⟨-, files⟩ := json_read_back
  obtain ⟨body, hread, hhead, hdecode⟩ := files {} "out/a.json" records _ rfl
  exact ⟨_, body, rfl, hread, hhead, hdecode⟩

end Glean.Report
