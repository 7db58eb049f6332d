import Glean.Proofs.CsvReader
import Glean.Proofs.FileTree
import Glean.Proofs.Utf8
import Glean.Report.File

set_option autoImplicit false

/-!
# Reading comma separated report files

A report file holds its records and nothing that tells two lists of records apart is lost on the way
through quotes, UTF-8 and the file tree.
-/
namespace Glean.Report

theorem fileBytes_csv (records : List Record) :
    fileBytes .csv records =
      0xEF :: 0xBB :: 0xBF :: (String.ofList (Csv.encode records)).toUTF8.toList := by
  have hbytes : String.utf8EncodeChar mark = [0xEF, 0xBB, 0xBF] := by decide
  have htext : fileText .csv records = String.ofList (mark :: Csv.encode records) := by
    rw [fileText, render, ← String.ofList_append, List.singleton_append]
  rw [fileBytes, htext, Text.toList_toUTF8, List.flatMap_cons, hbytes, Text.toList_toUTF8]
  rfl

/-- What is written as a report and read as a table again are the same records: in a text, and in a
file behind its byte order mark. -/
theorem csv_read_back :
    (∀ records, Csv.decode (Csv.encode records) = some records) ∧
    (∀ t path records u, write t path .csv records = .ok u →
      ∃ body, u.read? path = some (0xEF :: 0xBB :: 0xBF :: body) ∧
        (Text.decodeExact body).bind Csv.decode = some records) ∧
    ∀ first second, Csv.encode first = Csv.encode second → first = second := by
  refine ⟨Csv.decode_encode, ?_, ?_⟩
  · intro t path records u h
    unfold write at h
    split at h
    · rename_i made hmade
      rw [Except.ok.injEq] at h
      subst h
      refine ⟨(String.ofList (Csv.encode records)).toUTF8.toList, ?_, ?_⟩
      · rw [← fileBytes_csv]
        exact t.read?_of_write _ path _ hmade
      · rw [Text.decodeExact_toUTF8, Option.bind_some, Csv.decode_encode]
    · contradiction
  · intro first second h
    have hfirst := Csv.decode_encode first
    rw [h, Csv.decode_encode] at hfirst
    exact (Option.some.inj hfirst).symm

/-- A text that looks like the end of its row and another one. -/
theorem csv_read_back_row :
    let records : List Record := [⟨"a,\"b", 7, .script, "中\",\r\n\"x\",1,\"markup\",\"\""⟩]
    ∃ u body, write {} "out/a.csv" .csv records = .ok u ∧
      u.read? "out/a.csv" = some (0xEF :: 0xBB :: 0xBF :: body) ∧
      (Text.decodeExact body).bind Csv.decode = some records := by
  intro records
  obtain ⟨-, files, -⟩ := csv_read_back
  obtain ⟨body, hread, hdecode⟩ := files {} "out/a.csv" records _ rfl
  exact ⟨_, body, rfl, hread, hdecode⟩

end Glean.Report
