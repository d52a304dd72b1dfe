import Throttle.Management.Lines
import Throttle.Proofs.Json.Printer
import Throttle.Proofs.Text.Utf8

/-!
# What is served

Every line that is not blank has one answer, up to the first line that is no text. An answer is one line, so the answers
can be told apart. What is served in two parts, of which the second begins on a line of its own, is served as a whole.
-/

namespace Throttle.Management

/-! ## Lines -/

/-- What a line holds that a line feed ends: a carriage return before the line feed belongs to the end. -/
def withoutReturn (line : List UInt8) : List UInt8 := if line.getLast? = some 13 then line.dropLast else line

/-- What the lines of some bytes hold. What follows the last line feed is a line unless it is nothing. -/
def contents (bytes : List UInt8) : List (List UInt8) :=
  let pieces := bytes.splitOn 10
  pieces.dropLast.map withoutReturn ++ pieces.getLast?.toList.filter (· ≠ [])

section Contents

variable {line rest : List UInt8}

theorem contents_last (h : 10 ∉ line) : contents line = if line = [] then [] else [line] := by
  rw [contents, List.splitOn_eq_singleton h]
  by_cases hline : line = [] <;> simp [hline]

theorem contents_line (h : 10 ∉ line) : contents (line ++ 10 :: rest) = withoutReturn line :: contents rest := by
  have hrest := List.splitOn_ne_nil 10 rest
  simp only [contents, List.splitOn_append_cons_self, List.splitOn_eq_singleton h, List.singleton_append]
  rw [List.dropLast_cons_of_ne_nil hrest, List.getLast?_cons_of_ne_nil hrest]
  simp

theorem linesOf_last (h : 10 ∉ line) : linesOf line = if line = [] then [] else [line] := by
  induction line with
  | nil => rfl
  | cons b line ih =>
      obtain ⟨hb, hline⟩ := List.ne_and_not_mem_of_not_mem_cons h
      rw [linesOf, if_neg (Ne.symm hb), ih hline]
      by_cases hnil : line = [] <;> simp [hnil]

theorem linesOf_line (h : 10 ∉ line) : linesOf (line ++ 10 :: rest) = (line ++ [10]) :: linesOf rest := by
  induction line with
  | nil => simp [linesOf]
  | cons b line ih =>
      obtain ⟨hb, hline⟩ := List.ne_and_not_mem_of_not_mem_cons h
      rw [List.cons_append, linesOf, if_neg (Ne.symm hb), ih hline]
      rfl

end Contents

/-- Bytes are a line and further bytes, or what follows the last line feed. -/
theorem lines_induction {motive : List UInt8 → Prop} (last : ∀ line, 10 ∉ line → motive line)
    (line : ∀ line rest, 10 ∉ line → motive rest → motive (line ++ 10 :: rest)) (bytes : List UInt8) : motive bytes := by
  induction hlength : bytes.length using Nat.strongRecOn generalizing bytes with
  | ind length ih =>
      by_cases h : 10 ∈ bytes
      · obtain ⟨first, rest, rfl, hfirst⟩ := List.eq_append_cons_of_mem h
        refine line first rest hfirst (ih rest.length ?_ rest rfl)
        simp only [List.length_append, List.length_cons] at hlength
        omega
      · exact last bytes h

/-! ## Texts -/

theorem readLine_toOption (bytes : List UInt8) :
    (readLine bytes).toOption = (String.fromUTF8? bytes.toByteArray).map withoutEnding := by
  rw [← Text.toOption_decode, readLine]
  cases Text.decode bytes <;> rfl

theorem withoutEnding_eq_self {s : String} (h : '\n' ∉ s.toList) : withoutEnding s = s := by
  have hfeed {cs : List Char} (heq : s.toList.reverse = '\n' :: cs) : False :=
    h (List.mem_reverse.mp (heq ▸ List.mem_cons_self))
  rw [withoutEnding]
  split
  · exact (hfeed ‹_›).elim
  · exact (hfeed ‹_›).elim
  · rfl

theorem withoutEnding_return (s : String) : withoutEnding ((s.push '\r').push '\n') = s := by
  simp [withoutEnding]

theorem withoutEnding_push {s : String} (h : s.toList.getLast? ≠ some '\r') : withoutEnding (s.push '\n') = s := by
  rw [← List.head?_reverse] at h
  have hs : (s.push '\n').toList.reverse = '\n' :: s.toList.reverse := by simp
  rw [withoutEnding, hs]
  split
  · next heq =>
    obtain ⟨-, heq⟩ := List.cons.inj heq
    simp [heq] at h
  · next heq =>
    obtain ⟨-, heq⟩ := List.cons.inj heq
    rw [← heq, List.reverse_reverse, String.ofList_toList]
  · next hnone => exact (hnone _ rfl).elim

theorem readLine_last {line : List UInt8} (h : 10 ∉ line) :
    (readLine line).toOption = String.fromUTF8? line.toByteArray := by
  rw [readLine_toOption]
  cases hs : String.fromUTF8? line.toByteArray with
  | none => rfl
  | some s =>
      have hfeed : '\n' ∉ s.toList := by
        intro hmem
        apply h
        rw [Text.fromUTF8?_eq_some_iff.mp hs]
        exact List.mem_flatMap_of_mem hmem (by decide)
      rw [Option.map_some, withoutEnding_eq_self hfeed]

theorem readLine_line (line : List UInt8) :
    (readLine (line ++ [10])).toOption = String.fromUTF8? (withoutReturn line).toByteArray := by
  rw [readLine_toOption, Text.fromUTF8?_concat (by decide)]
  by_cases hreturn : line.getLast? = some 13
  · obtain ⟨rest, rfl⟩ := List.getLast?_eq_some_iff.mp hreturn
    rw [withoutReturn, if_pos hreturn, List.dropLast_concat, Text.fromUTF8?_concat (by decide)]
    cases String.fromUTF8? rest.toByteArray with
    | none => rfl
    | some s => exact congrArg some (withoutEnding_return s)
  · rw [withoutReturn, if_neg hreturn]
    cases hs : String.fromUTF8? line.toByteArray with
    | none => rfl
    | some s =>
        have hlast : s.toList.getLast? ≠ some '\r' := by
          intro hlast
          obtain ⟨cs, hcs⟩ := List.getLast?_eq_some_iff.mp hlast
          have hline := Text.encodeChars_concat (b := 13) (by decide) cs
          apply hreturn
          rw [Text.fromUTF8?_eq_some_iff.mp hs, hcs]
          exact hline ▸ List.getLast?_concat
        exact congrArg some (withoutEnding_push hlast)

/-- What the lines of some bytes say, or nothing for a line that is no text. -/
def texts (bytes : List UInt8) : List (Option String) :=
  (contents bytes).map fun line => String.fromUTF8? line.toByteArray

theorem map_readLine_linesOf (bytes : List UInt8) :
    (linesOf bytes).map (fun line => (readLine line).toOption) = texts bytes := by
  induction bytes using lines_induction with
  | last line h =>
      rw [texts, linesOf_last h, contents_last h]
      by_cases hline : line = [] <;> simp [hline, readLine_last h]
  | line line rest h ih =>
      rw [linesOf_line h, List.map_cons, ih, readLine_line, texts, texts, contents_line h, List.map_cons]

/-! ## Answers -/

/-- The lines that are answered: those that are not blank, up to the first that is no text. -/
def requests (texts : List (Option String)) : List String :=
  ((texts.takeWhile Option.isSome).filterMap id).filter fun line => Text.trim line ≠ ""

theorem requests_none (rest : List (Option String)) : requests (none :: rest) = [] := rfl

theorem requests_blank {line : String} (h : Text.trim line = "") (rest : List (Option String)) :
    requests (some line :: rest) = requests rest := by
  simp [requests, h]

theorem requests_some {line : String} (h : Text.trim line ≠ "") (rest : List (Option String)) :
    requests (some line :: rest) = line :: requests rest := by
  simp [requests, h]

namespace Service

/-- The answers to some lines, each asked of the service that the one before it has left, at a reading of its own. -/
def handleLines (s : Service Float) (clock : Nat → Float) : List String → List String × Service Float
  | [] => ([], s)
  | line :: lines =>
    let (answer, s) := s.handleLine (clock 0) line
    let (answers, s) := s.handleLines (fun n => clock (n + 1)) lines
    (answer :: answers, s)

section Serving

variable {s : Service Float} {clock : Nat → Float} {bytes : List UInt8} {rest : List (List UInt8)} {line : String}

theorem serveLines_blank (h : readLine bytes = .ok line) (hblank : Text.trim line = "") :
    s.serveLines clock (bytes :: rest) = s.serveLines clock rest := by
  simp [serveLines, h, hblank]

theorem serveLines_request (h : readLine bytes = .ok line) (hrequest : Text.trim line ≠ "") :
    s.serveLines clock (bytes :: rest) =
      let served := (s.handleLine (clock 0) line).2.serveLines (fun n => clock (n + 1)) rest
      { served with answers := (s.handleLine (clock 0) line).1 :: served.answers } := by
  simp [serveLines, h, hrequest]

theorem serveLines_failure {e : Error} (h : readLine bytes = .error e) :
    s.serveLines clock (bytes :: rest) = { failure := some e, service := s } := by
  simp [serveLines, h]

/-- The lines are answered one after another. -/
theorem serveLines_eq (s : Service Float) (clock : Nat → Float) (lines : List (List UInt8)) :
    let texts := lines.map fun line => (readLine line).toOption
    let served := s.serveLines clock lines
    (served.answers, served.service) = s.handleLines clock (requests texts) ∧ (served.failure.isSome ↔ none ∈ texts) := by
  induction lines generalizing s clock with
  | nil => simp [serveLines, handleLines, requests]
  | cons bytes rest ih =>
      cases h : readLine bytes with
      | error e =>
          have htext : (readLine bytes).toOption = none := by rw [h]; rfl
          simp [serveLines_failure h, htext, requests_none, handleLines]
      | ok line =>
          have htext : (readLine bytes).toOption = some line := by rw [h]; rfl
          by_cases hblank : Text.trim line = ""
          · simpa [serveLines_blank h hblank, htext, requests_blank hblank] using ih s clock
          · obtain ⟨hanswers, hfailure⟩ := ih (s.handleLine (clock 0) line).2 (fun n => clock (n + 1))
            simp only [List.map_cons, htext, serveLines_request h hblank, requests_some hblank, handleLines, ← hanswers]
            simpa using hfailure

theorem serveBy_eq (s : Service Float) (clock : Nat → Float) (bytes : List UInt8) :
    let served := s.serveBy clock bytes
    (served.answers, served.service) = s.handleLines clock (requests (texts bytes)) ∧
      (served.failure.isSome ↔ none ∈ texts bytes) :=
  map_readLine_linesOf bytes ▸ s.serveLines_eq clock (linesOf bytes)

/-- What a line that is a text answers and leaves. -/
theorem exists_turn (s : Service Float) (clock : Nat → Float) (line : String) :
    ∃ answers s', ∀ bytes rest, readLine bytes = .ok line →
      s.serveLines clock (bytes :: rest) =
        let served := Service.serveLines s' (fun n => clock (n + answers.length)) rest
        { served with answers := answers ++ served.answers } := by
  by_cases hblank : Text.trim line = ""
  · exact ⟨[], s, fun bytes rest h => serveLines_blank h hblank⟩
  · exact ⟨[_], _, fun bytes rest h => serveLines_request h hblank⟩

theorem exists_readLine_of_failure_eq_none (h : (s.serveLines clock (bytes :: rest)).failure = none) :
    ∃ line, readLine bytes = .ok line := by
  cases hline : readLine bytes with
  | error e => rw [serveLines_failure hline] at h; cases h
  | ok line => exact ⟨line, rfl⟩

theorem readLine_concat {line : List UInt8} {t : String} (hfeed : 10 ∉ line) (hreturn : line.getLast? ≠ some 13)
    (h : readLine line = .ok t) : readLine (line ++ [10]) = .ok t := by
  have hconcat := readLine_line line
  rw [withoutReturn, if_neg hreturn, ← readLine_last hfeed, h] at hconcat
  cases hline : readLine (line ++ [10]) with
  | error e => rw [hline] at hconcat; cases hconcat
  | ok t' => rw [hline] at hconcat; cases hconcat; rfl

/-- A carriage return at the end of the first part would belong to the line feed between the parts. -/
theorem serveBy_append (s : Service Float) (clock : Nat → Float) {first : List UInt8} (hreturn : first.getLast? ≠ some 13)
    (h : (s.serveBy clock first).failure = none) (second : List UInt8) :
    s.serveBy clock (first ++ 10 :: second) =
      let begun := s.serveBy clock first
      let served := begun.service.serveBy (fun n => clock (n + begun.answers.length)) second
      { served with answers := begun.answers ++ served.answers } := by
  unfold serveBy at h ⊢
  induction first using lines_induction generalizing s clock with
  | last line hline =>
      rw [linesOf_line hline, linesOf_last hline] at *
      by_cases hnil : line = []
      · subst hnil
        have hempty : readLine ([] ++ [10]) = .ok "" := rfl
        exact serveLines_blank hempty (by decide)
      · rw [if_neg hnil] at h ⊢
        obtain ⟨t, ht⟩ := exists_readLine_of_failure_eq_none h
        obtain ⟨answers, s', hturn⟩ := exists_turn s clock t
        rw [hturn _ _ ht, hturn _ _ (readLine_concat hline hreturn ht)]
        simp [serveLines]
  | line line rest hline ih =>
      rw [List.append_assoc, List.cons_append, linesOf_line hline, linesOf_line hline] at *
      obtain ⟨t, ht⟩ := exists_readLine_of_failure_eq_none h
      obtain ⟨answers, s', hturn⟩ := exists_turn s clock t
      rw [hturn _ _ ht] at h ⊢
      rw [hturn _ _ ht]
      have hrest : rest.getLast? ≠ some 13 := by
        intro hlast
        simp [List.getLast?_append, List.getLast?_cons, hlast] at hreturn
      simp [ih s' _ hrest h, Nat.add_comm, Nat.add_left_comm]

theorem length_handleLines (s : Service Float) (clock : Nat → Float) (lines : List String) :
    (s.handleLines clock lines).1.length = lines.length := by
  induction lines generalizing s clock with
  | nil => rfl
  | cons line lines ih => simp [handleLines, ih]

end Serving

end Service

/-! ## What is written -/

/-- The bytes that are written for some answers. -/
def written (answers : List String) : List UInt8 := answers.flatMap fun a => a.toUTF8.data.toList ++ [10]

theorem toUTF8_eq_encodeChars (s : String) : s.toUTF8.data.toList = Text.encodeChars s.toList := by
  have h : (Text.encodeChars s.toList).toByteArray = s.toUTF8 := String.utf8Encode_toList
  rw [← h, List.data_toByteArray]

theorem not_mem_toUTF8_of_printable {s : String} (h : Printable s.toList) {b : UInt8} (hb : b.toNat < 32) :
    b ∉ s.toUTF8.data.toList := by
  rw [toUTF8_eq_encodeChars]
  intro hmem
  have hspace := UInt32.le_iff_toNat_le.mp (h _ (Text.mem_of_mem_encodeChars hmem (by omega)))
  have hcode : (Char.ofNat b.toNat).val.toNat = b.toNat := Text.toNat_val_ofNat (.inl (by omega))
  have hcontrol : ' '.val.toNat = 32 := rfl
  omega

theorem contents_written {answers : List String} (h : ∀ a ∈ answers, Printable a.toList) :
    contents (written answers) = answers.map fun a => a.toUTF8.data.toList := by
  induction answers with
  | nil => rfl
  | cons a answers ih =>
      obtain ⟨ha, hrest⟩ := List.forall_mem_cons.mp h
      have hreturn : a.toUTF8.data.toList.getLast? ≠ some 13 := fun hlast =>
        not_mem_toUTF8_of_printable ha (by decide) (List.mem_of_getLast? hlast)
      rw [written, List.flatMap_cons, List.append_assoc, List.singleton_append,
        contents_line (not_mem_toUTF8_of_printable ha (by decide)), withoutReturn, if_neg hreturn, List.map_cons,
        ← ih hrest, written]

namespace Service

theorem printable_handleLine (s : Service Float) (now : Float) (line : String) :
    Printable (s.handleLine now line).1.toList :=
  Json.printable_write _

theorem printable_handleLines (s : Service Float) (clock : Nat → Float) (lines : List String) :
    ∀ a ∈ (s.handleLines clock lines).1, Printable a.toList := by
  induction lines generalizing s clock with
  | nil => simp [handleLines]
  | cons line lines ih => exact List.forall_mem_cons.mpr ⟨s.printable_handleLine (clock 0) line, ih _ _⟩

/-- The lines that are texts and not blank are answered one after another, up to the first that is no text, and each
answer is written as one line. Bytes in two parts with a line feed between them are served as the parts are. -/
theorem serve_line_by_line (s : Service Float) (clock : Nat → Float) (bytes : List UInt8) :
    let served := s.serveBy clock bytes
    (served.answers, served.service) = s.handleLines clock (requests (texts bytes)) ∧
    (served.failure.isSome ↔ none ∈ texts bytes) ∧
    (∀ now line, '\n' ∉ (s.handleLine now line).1.toList) ∧
    contents (written served.answers) = served.answers.map (fun a => a.toUTF8.data.toList) ∧
    served.answers.length = (requests (texts bytes)).length ∧
    (∀ first second, bytes = first ++ 10 :: second → first.getLast? ≠ some 13 → (s.serveBy clock first).failure = none →
      served =
        let begun := s.serveBy clock first
        let rest := begun.service.serveBy (fun n => clock (n + begun.answers.length)) second
        { rest with answers := begun.answers ++ rest.answers }) := by
  obtain ⟨hserved, hfailure⟩ := s.serveBy_eq clock bytes
  have hanswers : (s.serveBy clock bytes).answers = _ := congrArg Prod.fst hserved
  refine ⟨hserved, hfailure, fun now line hfeed => ?_, ?_, ?_, ?_⟩
  · exact absurd (s.printable_handleLine now line _ hfeed) (by decide)
  · exact contents_written (hanswers ▸ s.printable_handleLines clock _)
  · rw [hanswers, length_handleLines]
  · rintro first second rfl hreturn h
    exact s.serveBy_append clock hreturn h second

/-- The clock runs on from part to part, and the second part ends in a byte that is no text. -/
theorem serve_line_by_line_in_parts :
    let s : Service Float := ⟨{}, ⟨[], .opened⟩⟩
    let clock : Nat → Float := Float.ofNat
    let rest := (s.serveBy clock [120]).service.serveBy (fun n => clock (n + 1)) [13, 10, 120, 10, 255]
    (s.serveBy clock [120]).failure = none ∧
      s.serveBy clock ([120] ++ 10 :: [13, 10, 120, 10, 255]) =
        { rest with answers := (s.serveBy clock [120]).answers ++ rest.answers } := by
  intro s clock rest
  have h : (s.serveBy clock [120]).failure = none := by decide +kernel
  exact ⟨h, (serve_line_by_line s clock _).2.2.2.2.2 [120] _ rfl (by decide) h⟩

end Service

end Throttle.Management
