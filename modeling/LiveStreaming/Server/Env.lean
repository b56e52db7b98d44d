import LiveStreaming.Basic
import Mathlib.Data.List.Basic

/-!
# The server's `.env` loader

`loadEnvFromFile` reads `config/local.env` when `DATABASE_URL` is unset. It
scans the file with a `bufio.Scanner` (lines split at `\n`, a carriage return
before the newline dropped, and a line of 64 KiB or more stopping the scan with
`bufio.ErrTooLong`), trims each line with `strings.TrimSpace`, skips blank lines
and lines starting with `#`, and for a line whose first `=` is not its first
character calls `os.Setenv` on the trimmed text before and after that `=`,
ignoring the error. The model returns the `os.Setenv` calls in order and the
error the function returns; Go's byte strings are taken to be valid UTF-8, as
the scanner's byte counts are (`byteLength`).

Two facts tie the loader to the file format it reads:

* every call it makes has a key and a value that are `EnvEntry` fields: a
  nonempty key without `=`, not starting with `#`, neither with surrounding
  spaces, each on one line, the line shorter than the scanner's limit
  (`env_assignments_well_formed`), so `os.Setenv` never sees an empty key or
  one holding `=`;
* rendering such entries as `KEY=VALUE` lines and loading the file gives back
  exactly those calls, with no error (`env_file_round_trip`).
-/

namespace LiveStreaming.Server

/-! ## Scanning and trimming -/

def isSpace (c : Char) : Bool :=
  if c.toNat ≤ 0xFF then
    c.toNat = 0x09 || c.toNat = 0x0A || c.toNat = 0x0B || c.toNat = 0x0C || c.toNat = 0x0D ||
      c.toNat = 0x20 || c.toNat = 0x85 || c.toNat = 0xA0
  else
    c.toNat = 0x1680 || (0x2000 ≤ c.toNat && c.toNat ≤ 0x200A) || c.toNat = 0x2028 ||
      c.toNat = 0x2029 || c.toNat = 0x202F || c.toNat = 0x205F || c.toNat = 0x3000

def trimSpace (text : List Char) : List Char :=
  ((text.dropWhile isSpace).reverse.dropWhile isSpace).reverse

/-- The length in bytes of the UTF-8 encoding. -/
def byteLength (text : List Char) : Nat :=
  text.foldr (fun c total => c.utf8Size + total) 0

def maxScanTokenSize : Nat := 64 * 1024

/-- The lines of the input, each without its newline: `current` holds the
line read so far, reversed; a last line without a newline counts unless it is
empty. -/
def rawLines : List Char → List Char → List (List Char)
  | [], current => if current.isEmpty then [] else [current.reverse]
  | c :: rest, current =>
      if c = '\n' then current.reverse :: rawLines rest [] else rawLines rest (c :: current)

/-- `dropCR`: a line's final carriage return. -/
def dropCR (line : List Char) : List Char :=
  if line.getLast? = some '\r' then line.dropLast else line

/-- `bufio.Scanner` with `ScanLines`: the lines it returns, and whether it
stopped at a line of `bufio.MaxScanTokenSize` bytes or more. -/
def scanLines (content : List Char) : List (List Char) × Bool :=
  let lines := rawLines content []
  let fitting := lines.takeWhile fun line => byteLength line < maxScanTokenSize
  (fitting.map dropCR, fitting.length < lines.length)

/-! ## The loader -/

/-- The errors `loadEnvFromFile` returns: `os.Open`'s, whose text names the
path and the platform's reason, and `bufio.ErrTooLong`. -/
inductive EnvError where
  | openFailed
  | tooLong
  deriving DecidableEq, Repr

/-- The text of `bufio.ErrTooLong`. -/
def EnvError.tooLongText : String := "bufio.Scanner: token too long"

/-- The body of the scan loop for one line: the `os.Setenv` call it makes, if
any. -/
def envAssignment (line : List Char) : Option (String × String) :=
  let line := trimSpace line
  if line.isEmpty || line.head? == some '#' then none
  else
    let key := line.takeWhile (· ≠ '=')
    match line.dropWhile (· ≠ '=') with
    | '=' :: value =>
        if key.isEmpty then none else some (String.mk (trimSpace key), String.mk (trimSpace value))
    | _ => none

/-- `loadEnvFromFile` on the file's content, `none` when `os.Open` fails: the
`os.Setenv` calls it makes, in order, and the error it returns. -/
def loadEnvFromFile (file : Option String) : List (String × String) × Option EnvError :=
  match file with
  | none => ([], some .openFailed)
  | some content =>
      let scanned := scanLines content.data
      (scanned.1.filterMap envAssignment, if scanned.2 then some .tooLong else none)

/-! ## Well-formed entries -/

/-- Text that neither starts nor ends with a space. -/
def Trimmed (text : List Char) : Prop :=
  (∀ c ∈ text.head?, isSpace c = false) ∧ ∀ c ∈ text.getLast?, isSpace c = false

/-- A `KEY=VALUE` entry the loader reads back as it is. -/
structure EnvEntry where
  key : String
  value : String
  keyNonempty : key.data ≠ []
  keyTrimmed : Trimmed key.data
  keyWithoutEquals : '=' ∉ key.data
  notComment : key.data.head? ≠ some '#'
  keyOneLine : '\n' ∉ key.data
  valueTrimmed : Trimmed value.data
  valueOneLine : '\n' ∉ value.data
  fits : byteLength (key.data ++ '=' :: value.data) < maxScanTokenSize

/-- The `os.Setenv` call of an entry. -/
def EnvEntry.assignment (entry : EnvEntry) : String × String :=
  (entry.key, entry.value)

/-- The line an entry is written as, without its newline. -/
def EnvEntry.line (entry : EnvEntry) : List Char :=
  entry.key.data ++ '=' :: entry.value.data

/-- The file of `KEY=VALUE` lines, one per entry. -/
def renderEnv (entries : List EnvEntry) : String :=
  String.mk (entries.flatMap fun entry => entry.line ++ ['\n'])

/-! ## Trimming -/

section Trim

theorem isSpace_carriageReturn : isSpace '\r' = true := by decide

theorem dropWhile_isSpace_of_head {text : List Char} (start : ∀ c ∈ text.head?, isSpace c = false) :
    text.dropWhile isSpace = text := by
  cases text with
  | nil => rfl
  | cons c rest => exact List.dropWhile_cons_of_neg (by simpa using start c rfl)

theorem head?_dropWhile_isSpace (text : List Char) :
    ∀ c ∈ (text.dropWhile isSpace).head?, isSpace c = false := by
  intro c found
  have := List.head?_dropWhile_not isSpace text
  rw [Option.mem_def.mp found] at this
  exact this

/-- A trimmed text is left as it is. -/
theorem trimSpace_of_trimmed {text : List Char} (trimmed : Trimmed text) : trimSpace text = text := by
  unfold trimSpace
  rw [dropWhile_isSpace_of_head trimmed.1,
    dropWhile_isSpace_of_head (by simpa only [List.head?_reverse] using trimmed.2), List.reverse_reverse]

/-- Trimming a text that starts with a non-space keeps that start. -/
theorem trimSpace_cons {c : Char} (notSpace : isSpace c = false) (rest : List Char) :
    trimSpace (c :: rest) = c :: (rest.reverse.dropWhile isSpace).reverse := by
  have kept : ((rest.reverse ++ [c]).dropWhile isSpace) = rest.reverse.dropWhile isSpace ++ [c] := by
    rw [List.dropWhile_append]
    split
    · next allSpace =>
        rw [List.isEmpty_iff.mp allSpace, List.dropWhile_cons_of_neg (by simp [notSpace])]
        rfl
    · rfl
  unfold trimSpace
  rw [List.dropWhile_cons_of_neg (by simp [notSpace]), List.reverse_cons, kept, List.reverse_append]
  rfl

theorem trimSpace_sublist (text : List Char) : (trimSpace text).Sublist text := by
  have dropped : (text.dropWhile isSpace).Sublist text := List.dropWhile_sublist isSpace
  have inner := (List.dropWhile_sublist isSpace).trans (List.reverse_sublist.mpr dropped)
  simpa only [trimSpace, List.reverse_reverse] using List.reverse_sublist.mpr inner

/-- Dropping a prefix keeps the last character, if any is left. -/
theorem getLast?_dropWhile_isSpace {text : List Char} {c : Char}
    (found : c ∈ (text.dropWhile isSpace).getLast?) : c ∈ text.getLast? := by
  obtain ⟨before, whole⟩ : List.IsSuffix (text.dropWhile isSpace) text := List.dropWhile_suffix isSpace
  have nonempty : text.dropWhile isSpace ≠ [] := by
    rintro empty
    rw [empty] at found
    cases found
  rw [← whole, List.getLast?_append_of_ne_nil _ nonempty]
  exact found

/-- What `strings.TrimSpace` returns is trimmed. -/
theorem trimSpace_trimmed (text : List Char) : Trimmed (trimSpace text) := by
  unfold trimSpace
  refine ⟨fun c found => ?_, fun c found => ?_⟩
  · rw [List.head?_reverse] at found
    have last := getLast?_dropWhile_isSpace found
    rw [List.getLast?_reverse] at last
    exact head?_dropWhile_isSpace text c last
  · rw [List.getLast?_reverse] at found
    exact head?_dropWhile_isSpace _ c found

end Trim

/-! ## Lines -/

section Lines

/-- A line followed by a newline is one line of the scan. -/
theorem rawLines_append_newline (rest : List Char) :
    ∀ (line current : List Char), '\n' ∉ line →
      rawLines (line ++ '\n' :: rest) current = (current.reverse ++ line) :: rawLines rest []
  | [], current, _ => by simp [rawLines]
  | c :: line, current, noNewline => by
      have other : c ≠ '\n' := fun same => noNewline (same ▸ List.mem_cons_self c line)
      rw [List.cons_append, rawLines, if_neg other,
        rawLines_append_newline rest line (c :: current) fun member => noNewline (List.mem_cons_of_mem c member)]
      simp

/-- The scan's lines hold no newline. -/
theorem rawLines_oneLine :
    ∀ (content current : List Char), '\n' ∉ current → ∀ line ∈ rawLines content current, '\n' ∉ line
  | [], current, noNewline, line, member => by
      unfold rawLines at member
      split at member
      · cases member
      · rw [List.mem_singleton.mp member, List.mem_reverse]
        exact noNewline
  | c :: rest, current, noNewline, line, member => by
      unfold rawLines at member
      split at member
      · rcases List.mem_cons.mp member with rfl | later
        · rw [List.mem_reverse]
          exact noNewline
        · exact rawLines_oneLine rest [] (List.not_mem_nil _) line later
      · next other =>
          refine rawLines_oneLine rest (c :: current) ?_ line member
          rintro (_ | ⟨_, inCurrent⟩)
          · exact other rfl
          · exact noNewline inCurrent

theorem byteLength_le_of_sublist {shorter longer : List Char} (sub : shorter.Sublist longer) :
    byteLength shorter ≤ byteLength longer := by
  induction sub with
  | slnil => exact le_rfl
  | cons c _ inductionHypothesis =>
      simp only [byteLength, List.foldr_cons] at inductionHypothesis ⊢
      omega
  | cons₂ c _ inductionHypothesis =>
      simp only [byteLength, List.foldr_cons] at inductionHypothesis ⊢
      omega

theorem dropCR_sublist (line : List Char) : (dropCR line).Sublist line := by
  unfold dropCR
  split_ifs
  exacts [List.dropLast_sublist _, List.Sublist.refl _]

theorem dropCR_of_trimmed {line : List Char} (trimmed : Trimmed line) : dropCR line = line := by
  unfold dropCR
  rw [if_neg fun last => by simpa [isSpace_carriageReturn] using trimmed.2 '\r' last]

end Lines

/-! ## An entry's line -/

section Entry

variable (entry : EnvEntry)

theorem EnvEntry.line_oneLine : '\n' ∉ entry.line := by
  simp only [EnvEntry.line, List.mem_append, List.mem_cons, not_or]
  exact ⟨entry.keyOneLine, by decide, entry.valueOneLine⟩

theorem EnvEntry.line_trimmed : Trimmed entry.line := by
  obtain ⟨first, rest, split⟩ := List.exists_cons_of_ne_nil entry.keyNonempty
  refine ⟨fun c found => ?_, fun c found => ?_⟩
  · simp only [EnvEntry.line, split, List.cons_append, List.head?_cons, Option.mem_def,
      Option.some.injEq] at found
    exact entry.keyTrimmed.1 c (by rw [split, found]; rfl)
  · rw [EnvEntry.line, List.getLast?_append_of_ne_nil _ (List.cons_ne_nil _ _)] at found
    cases lastValue : entry.value.data.getLast? with
    | none =>
        rw [List.getLast?_eq_none_iff.mp lastValue] at found
        obtain rfl : c = '=' := (Option.some.inj (Option.mem_def.mp found)).symm
        rfl
    | some last =>
        have : ('=' :: entry.value.data).getLast? = some last := by
          rw [List.getLast?_cons, lastValue]
          rfl
        rw [this, Option.mem_def, Option.some.injEq] at found
        exact found ▸ entry.valueTrimmed.2 last lastValue

/-- The loader reads an entry's line back as the entry's call. -/
theorem envAssignment_line : envAssignment entry.line = some entry.assignment := by
  have keyFree : ∀ c ∈ entry.key.data, decide (c ≠ '=') = true := fun c member => by
    simpa using fun same : c = '=' => entry.keyWithoutEquals (same ▸ member)
  have head : entry.line.head? = entry.key.data.head? := by
    obtain ⟨first, rest, split⟩ := List.exists_cons_of_ne_nil entry.keyNonempty
    simp [EnvEntry.line, split]
  have taken : entry.line.takeWhile (· ≠ '=') = entry.key.data := by
    rw [EnvEntry.line, List.takeWhile_append_of_pos keyFree, List.takeWhile_cons_of_neg (by simp),
      List.append_nil]
  have dropped : entry.line.dropWhile (· ≠ '=') = '=' :: entry.value.data := by
    rw [EnvEntry.line, List.dropWhile_append_of_pos keyFree, List.dropWhile_cons_of_neg (by simp)]
  have nonempty : entry.line.isEmpty = false := by simp [EnvEntry.line]
  have notComment : (entry.line.head? == some '#') = false := by
    rw [head]
    simpa using entry.notComment
  simp only [envAssignment, trimSpace_of_trimmed entry.line_trimmed, nonempty, notComment,
    Bool.or_false, if_false, Bool.false_eq_true, taken, dropped]
  rw [if_neg (by simpa using entry.keyNonempty), trimSpace_of_trimmed entry.keyTrimmed,
    trimSpace_of_trimmed entry.valueTrimmed]
  rfl

end Entry

theorem rawLines_renderEnv :
    ∀ entries : List EnvEntry, rawLines (renderEnv entries).data [] = entries.map EnvEntry.line
  | [] => rfl
  | entry :: rest => by
      have rest' := rawLines_renderEnv rest
      simp only [renderEnv, List.flatMap_cons, List.append_assoc, List.singleton_append] at rest' ⊢
      rw [rawLines_append_newline _ _ _ entry.line_oneLine, rest']
      rfl

/-- Loading the file of `KEY=VALUE` lines of some entries makes exactly the
entries' `os.Setenv` calls, in order, and returns no error. -/
theorem env_file_round_trip (entries : List EnvEntry) :
    loadEnvFromFile (some (renderEnv entries)) = (entries.map EnvEntry.assignment, none) := by
  have fitting : (entries.map EnvEntry.line).takeWhile
      (fun line => byteLength line < maxScanTokenSize) = entries.map EnvEntry.line :=
    List.takeWhile_eq_self_iff.mpr fun line member => by
      obtain ⟨entry, -, rfl⟩ := List.mem_map.mp member
      simpa using entry.fits
  have kept : (entries.map EnvEntry.line).map dropCR = entries.map EnvEntry.line := by
    rw [List.map_map]
    exact List.map_congr_left fun entry _ => dropCR_of_trimmed entry.line_trimmed
  simp only [loadEnvFromFile, scanLines, rawLines_renderEnv, fitting, kept, lt_irrefl, decide_False,
    if_false, List.filterMap_map, Bool.false_eq_true]
  have readBack : envAssignment ∘ EnvEntry.line = some ∘ EnvEntry.assignment := funext envAssignment_line
  rw [readBack, List.filterMap_eq_map]

/-- A line the loader accepts makes the call of an entry: the trimmed text
before its first `=` and the trimmed text after it. -/
theorem envAssignment_entry {line : List Char} (oneLine : '\n' ∉ line)
    (short : byteLength line < maxScanTokenSize) {call : String × String}
    (accepted : envAssignment line = some call) : ∃ entry : EnvEntry, entry.assignment = call := by
  simp only [envAssignment] at accepted
  generalize trimmedDef : trimSpace line = trimmed at accepted
  generalize keyDef : trimmed.takeWhile (· ≠ '=') = key at accepted
  split at accepted
  · cases accepted
  · next skipped =>
      split at accepted
      · next value dropped =>
          split at accepted
          · cases accepted
          · next emptyKey =>
              cases accepted
              obtain ⟨first, rest, keySplit⟩ := List.exists_cons_of_ne_nil (by simpa using emptyKey)
              have whole : trimmed = key ++ '=' :: value := by
                rw [← keyDef, ← dropped, List.takeWhile_append_dropWhile]
              have lineHead : trimmed.head? = some first := by rw [whole, keySplit]; rfl
              have firstNotSpace : isSpace first = false :=
                (trimSpace_trimmed line).1 first (by rw [trimmedDef, lineHead]; rfl)
              have keyStart : (trimSpace key).head? = some first := by
                rw [keySplit, trimSpace_cons firstNotSpace]; rfl
              have part : (trimSpace key ++ '=' :: trimSpace value).Sublist line :=
                ((trimSpace_sublist key).append ((trimSpace_sublist value).cons₂ '=')).trans
                  (whole ▸ trimmedDef ▸ trimSpace_sublist line)
              have keyPart : (trimSpace key).Sublist line := (List.sublist_append_left _ _).trans part
              have valuePart : (trimSpace value).Sublist line :=
                ((List.sublist_cons_self _ _).trans (List.sublist_append_right _ _)).trans part
              refine ⟨⟨⟨trimSpace key⟩, ⟨trimSpace value⟩, ?_, trimSpace_trimmed key, ?_, ?_,
                fun member => oneLine (keyPart.subset member), trimSpace_trimmed value,
                fun member => oneLine (valuePart.subset member),
                (byteLength_le_of_sublist part).trans_lt short⟩, rfl⟩
              · -- the key starts with the line's first character
                intro empty
                rw [show trimSpace key = [] from empty] at keyStart
                cases keyStart
              · -- the key is taken before the first `=`
                intro member
                have := List.mem_takeWhile_imp (keyDef ▸ (trimSpace_sublist key).subset member)
                simp at this
              · -- the line does not start with `#`
                show (trimSpace key).head? ≠ some '#'
                rw [keyStart, ← lineHead]
                simp only [Bool.or_eq_true, List.isEmpty_iff, beq_iff_eq, not_or] at skipped
                exact skipped.2
      · cases accepted

theorem exists_entries :
    ∀ calls : List (String × String), (∀ call ∈ calls, ∃ entry : EnvEntry, entry.assignment = call) →
      ∃ entries : List EnvEntry, calls = entries.map EnvEntry.assignment
  | [], _ => ⟨[], rfl⟩
  | call :: rest, each => by
      obtain ⟨entry, rfl⟩ := each call (List.mem_cons_self _ _)
      obtain ⟨entries, rfl⟩ := exists_entries rest fun other member => each other (List.mem_cons_of_mem _ member)
      exact ⟨entry :: entries, rfl⟩

/-- Whatever the file holds, every `os.Setenv` call of `loadEnvFromFile` is an
entry's: a nonempty key without `=` and not starting with `#`, key and value
trimmed and on one line, the line within the scanner's limit; so rendering the
calls and loading them again gives the same calls. -/
theorem env_assignments_well_formed (content : String) :
    ∃ entries : List EnvEntry, (loadEnvFromFile (some content)).1 = entries.map EnvEntry.assignment := by
  refine exists_entries _ fun call member => ?_
  simp only [loadEnvFromFile, scanLines, List.mem_filterMap, List.mem_map] at member
  obtain ⟨_, ⟨raw, fitting, rfl⟩, accepted⟩ := member
  have short : byteLength raw < maxScanTokenSize := by simpa using List.mem_takeWhile_imp fitting
  have oneLine := rawLines_oneLine content.data [] (List.not_mem_nil _) raw
    ((List.takeWhile_sublist _).subset fitting)
  exact envAssignment_entry (fun member => oneLine ((dropCR_sublist raw).subset member))
    ((byteLength_le_of_sublist (dropCR_sublist raw)).trans_lt short) accepted

end LiveStreaming.Server
