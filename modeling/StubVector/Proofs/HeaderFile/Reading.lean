import StubVector.HeaderFile
import StubVector.Proofs.FileTree.Writing
import StubVector.Proofs.Text.Wide

/-!
# How reading a header ends

Reading a header gives its lines, or refuses the header at its path, or stops with a cause that
names no path. The latter happens if the path or the name of the charset cannot be given to the
system, and where decoding stops without naming bytes, as it does for data in UTF-16 that does not
tell its byte order. This holds whatever charsets the system knows.

* `HeaderFile.Reads`, `HeaderFile.Refuses`, `HeaderFile.Escapes`: the ways in which reading ends.
* `HeaderFile.readLines_cases`: one of them is the case.
* `HeaderFile.readLines_outcomes`: **which it is**, and when a header is read or refused.
* `HeaderFile.not_forall_refused`: not every header that is not read is refused.
-/

namespace StubVector

/-! ## Data without a byte order -/

namespace Charset

variable {charset : Charset} {bytes : List UInt8} {text : Text}

/-- Whether nothing tells the byte order of data in UTF-16: it has no mark, and with the lower byte
in front it is a text that is not empty. -/
structure Unmarked (bytes : List UInt8) : Prop where
  no_mark : ∀ order, ¬ Utf16.byteOrderMark order <+: bytes
  reads : ∃ c text, Utf16.decode? .littleEndian bytes = some (c :: text)

theorem found_ne_stopped (text : Option Text) (message : Text) :
    found text ≠ .error (.stopped message) := by
  cases text <;> simp [found]

theorem decodeMarked_eq_stopped_iff :
    (∃ message, decodeMarked bytes = .error (.stopped message)) ↔ Unmarked bytes := by
  rw [decodeMarked]
  split
  · next hmark =>
    refine iff_of_false (fun ⟨message, h⟩ => found_ne_stopped _ message h) fun h => ?_
    exact h.no_mark _ (List.isPrefixOf_iff_prefix.mp hmark)
  · next hlittle =>
    split
    · next hmark =>
      refine iff_of_false (fun ⟨message, h⟩ => found_ne_stopped _ message h) fun h => ?_
      exact h.no_mark _ (List.isPrefixOf_iff_prefix.mp hmark)
    · next hbig =>
      have hmark : ∀ order, ¬ Utf16.byteOrderMark order <+: bytes := by
        intro order
        cases order with
        | littleEndian => exact mt List.isPrefixOf_iff_prefix.mpr hlittle
        | bigEndian => exact mt List.isPrefixOf_iff_prefix.mpr hbig
      split
      · next hnone => exact iff_of_false nofun fun h => by simpa [hnone] using h.reads
      · next hempty => exact iff_of_false nofun fun h => by simpa [hempty] using h.reads
      · next text hne hsome =>
        obtain ⟨c, rest, rfl⟩ := List.exists_cons_of_ne_nil hne
        exact iff_of_true ⟨_, rfl⟩ ⟨hmark, c, rest, hsome⟩

/-- Of the charsets that are modelled, only UTF-16 stops, at data that lack their byte order. -/
theorem decoder_eq_stopped_iff :
    (∃ message, charset.decoder bytes = .error (.stopped message)) ↔
      charset = .utf16 ∧ Unmarked bytes := by
  have hdecode : (∃ message, charset.decoder bytes = .error (.stopped message)) ↔
      ∃ message, charset.decode bytes = .error (.stopped message) := by
    rw [decoder]
    cases charset.decode bytes <;> simp [Except.map]
  rw [hdecode]
  cases charset with
  | utf16 => simp [decode, decodeMarked_eq_stopped_iff]
  | page | utf8 | utf8Signed | utf16le | utf16be => simp [decode, found_ne_stopped]

end Charset

/-! ## Paths that the system cannot be given -/

namespace FileTree

variable {tree : FileTree} {path : Path} {halves : HalfRow}

theorem refuse_eq_error {α : Type} {shown : WideText} {result : Except Refusal α}
    {error : FileError} (h : refuse shown result = .error error) :
    ∃ refusal, error = .refused refusal shown := by
  cases result with
  | ok value => cases h
  | error refusal =>
    cases h
    exact ⟨refusal, rfl⟩

/-- A path that can be given to the system is opened or refused. -/
theorem read_of_givable (tree : FileTree) (hhalves : FileName.refused? path.toText = none)
    (hnul : holdsNul path = false) :
    (∃ bytes, tree.read path = .ok bytes) ∨
      ∃ refusal, tree.read path = .error (.refused refusal path.toText) := by
  have hcheck : checkText path = .ok () := by simp [checkText, hhalves, hnul]
  cases hread : tree.read path with
  | ok bytes => exact .inl ⟨bytes, rfl⟩
  | error error =>
    rw [read, hcheck] at hread
    obtain ⟨refusal, rfl⟩ := refuse_eq_error hread
    exact .inr ⟨refusal, rfl⟩

/-- Halves that cannot be stored are found before the system is asked. -/
theorem read_of_halves (hhalves : FileName.refused? path.toText = some halves) :
    tree.read path = .error (.unencodable halves) := by
  rw [read, checkText, hhalves]
  rfl

/-- So is the character that ends paths. -/
theorem read_of_nul (hhalves : FileName.refused? path.toText = none)
    (hnul : holdsNul path = true) : tree.read path = .error .nulInPath := by
  rw [read, checkText, hhalves]
  dsimp only
  rw [if_pos hnul]
  rfl

end FileTree

/-! ## The ways in which reading ends -/

namespace HeaderFile

variable {charsets : Charsets} {tree : FileTree} {path : Path} {name : WideText} {text : Text}
  {lines : List WideText} {refusal : HeaderRefusal} {error : HeaderError}

/-- Whether a text is the name of a charset as it is given to the system, which takes no halves of
pairs and not the character that ends names. -/
structure Names (name : WideText) (text : Text) : Prop where
  eq_ofText : name = .ofText text
  no_nul : '\x00' ∉ text

/-- Whether the file at the path can be opened and decoded, and has these lines. -/
inductive Reads (charsets : Charsets) (tree : FileTree) (path : Path) (name : WideText) :
    List WideText → Prop
  | decoded {text : Text} {header : WideText} {bytes : Bytes} {decode : Decoder}
      (hname : Names name text) (hread : tree.read path = .ok bytes)
      (hcharset : charsets text = some decode) (hdecode : decode bytes = .ok header) :
      Reads charsets tree path name header.splitLines

/-- Why a header is refused at its path. -/
inductive Refuses (charsets : Charsets) (tree : FileTree) (path : Path) (name : WideText) :
    HeaderRefusal → Prop
  /-- Nothing stands at the path. -/
  | notFound {text : Text} (hname : Names name text)
      (hread : tree.read path = .error (.refused .notFound path.toText)) :
      Refuses charsets tree path name .notFound
  /-- What stands at the path, or on the way, cannot be opened. -/
  | unreadable {text : Text} {refusal : Refusal} (hname : Names name text)
      (hread : tree.read path = .error (.refused refusal path.toText))
      (hfound : refusal ≠ .notFound) : Refuses charsets tree path name (.unreadable refusal)
  /-- The file can be opened, but there is no charset of the name. -/
  | unknownCharset {text : Text} {bytes : Bytes} (hname : Names name text)
      (hread : tree.read path = .ok bytes) (hcharset : charsets text = none) :
      Refuses charsets tree path name (.unknownCharset text)
  /-- The bytes of the file have no text in the charset. -/
  | undecodable {text : Text} {bytes : Bytes} {decode : Decoder} (hname : Names name text)
      (hread : tree.read path = .ok bytes) (hcharset : charsets text = some decode)
      (hdecode : decode bytes = .error .undecodable) :
      Refuses charsets tree path name (.undecodable text)

/-- For what reading stops without naming the path. -/
inductive Escapes (charsets : Charsets) (tree : FileTree) (path : Path) (name : WideText) :
    HeaderError → Prop
  /-- The name of the charset holds halves of pairs. -/
  | splitName {halves : HalfRow} (hname : name.asText = .error halves) :
      Escapes charsets tree path name (.unencodable halves)
  /-- The name of the charset holds the character that ends names. -/
  | nulInName {text : Text} (hname : name = .ofText text) (hnul : '\x00' ∈ text) :
      Escapes charsets tree path name .nulInCharsetName
  /-- The path holds halves of pairs that cannot be stored. -/
  | splitPath {text : Text} {halves : HalfRow} (hname : Names name text)
      (hpath : FileName.refused? path.toText = some halves) :
      Escapes charsets tree path name (.unencodable halves)
  /-- The path holds the character that ends paths. -/
  | nulInPath {text : Text} (hname : Names name text)
      (hpath : FileName.refused? path.toText = none) (hnul : FileTree.holdsNul path = true) :
      Escapes charsets tree path name .nulInPath
  /-- Decoding stops without naming bytes. -/
  | stopped {text message : Text} {bytes : Bytes} {decode : Decoder} (hname : Names name text)
      (hread : tree.read path = .ok bytes) (hcharset : charsets text = some decode)
      (hdecode : decode bytes = .error (.stopped message)) :
      Escapes charsets tree path name (.stopped message)

/-- A file that can be opened is decoded. -/
theorem readLines_of_read {bytes : Bytes} (hname : Names name text)
    (hread : tree.read path = .ok bytes) :
    readLines charsets tree path name =
      match charsets text with
      | none => .error (.refused (.unknownCharset text) path)
      | some decode =>
        match decode bytes with
        | .error .undecodable => .error (.refused (.undecodable text) path)
        | .error (.stopped message) => .error (.stopped message)
        | .ok header => .ok header.splitLines := by
  obtain ⟨rfl, hnul⟩ := hname
  simp only [readLines, linesOf, WideText.asText_ofText, if_neg hnul, hread]
  cases charsets text with
  | none => rfl
  | some decode =>
    cases hdecode : decode bytes with
    | ok header => simp only [hdecode, WideText.splitLines_unifyNewlines]
    | error cause => cases cause <;> simp only [hdecode]

/-- A file that cannot be opened is refused at the path, or the path stops the reading. -/
theorem readLines_of_read_error {cause : FileError} (hname : Names name text)
    (hread : tree.read path = .error cause) :
    readLines charsets tree path name =
      match cause with
      | .nulInPath => .error .nulInPath
      | .unencodable halves => .error (.unencodable halves)
      | .refused .notFound _ => .error (.refused .notFound path)
      | .refused refusal _ => .error (.refused (.unreadable refusal) path) := by
  obtain ⟨rfl, hnul⟩ := hname
  simp only [readLines, linesOf, WideText.asText_ofText, if_neg hnul, hread]
  cases cause with
  | refused refusal shown => cases refusal <;> rfl
  | nulInPath | unencodable => rfl

/-! ## What is read -/

theorem Reads.readLines_eq (h : Reads charsets tree path name lines) :
    readLines charsets tree path name = .ok lines := by
  obtain ⟨hname, hread, hcharset, hdecode⟩ := h
  simp only [readLines_of_read hname hread, hcharset, hdecode]

theorem Refuses.readLines_eq (h : Refuses charsets tree path name refusal) :
    readLines charsets tree path name = .error (.refused refusal path) := by
  cases h with
  | notFound hname hread => rw [readLines_of_read_error hname hread]
  | @unreadable _ refusal hname hread hfound =>
    rw [readLines_of_read_error hname hread]
    cases refusal with
    | notFound => exact absurd rfl hfound
    | notDirectory | isDirectory | alreadyExists | nameTooLong => rfl
  | unknownCharset hname hread hcharset => simp only [readLines_of_read hname hread, hcharset]
  | undecodable hname hread hcharset hdecode =>
    simp only [readLines_of_read hname hread, hcharset, hdecode]

theorem Escapes.readLines_eq (h : Escapes charsets tree path name error) :
    readLines charsets tree path name = .error error := by
  cases h with
  | splitName hname => simp only [readLines, linesOf, hname]
  | nulInName hname hnul =>
    simp only [readLines, linesOf, hname, WideText.asText_ofText, if_pos hnul]
  | splitPath hname hpath => rw [readLines_of_read_error hname (FileTree.read_of_halves hpath)]
  | nulInPath hname hpath hnul =>
    rw [readLines_of_read_error hname (FileTree.read_of_nul hpath hnul)]
  | stopped hname hread hcharset hdecode =>
    simp only [readLines_of_read hname hread, hcharset, hdecode]

/-- A file that can be opened is read, or refused, or decoding it stops. -/
theorem cases_of_read {bytes : Bytes} (hname : Names name text)
    (hread : tree.read path = .ok bytes) :
    (∃ lines, Reads charsets tree path name lines) ∨
      (∃ refusal, Refuses charsets tree path name refusal) ∨
      ∃ error, Escapes charsets tree path name error := by
  cases hcharset : charsets text with
  | none => exact .inr (.inl ⟨_, .unknownCharset hname hread hcharset⟩)
  | some decode =>
    cases hdecode : decode bytes with
    | ok header => exact .inl ⟨_, .decoded hname hread hcharset hdecode⟩
    | error cause =>
      cases cause with
      | undecodable => exact .inr (.inl ⟨_, .undecodable hname hread hcharset hdecode⟩)
      | stopped message => exact .inr (.inr ⟨_, .stopped hname hread hcharset hdecode⟩)

/-- **Every end.** Reading gives lines, or refuses the header, or stops otherwise. -/
theorem readLines_cases (charsets : Charsets) (tree : FileTree) (path : Path) (name : WideText) :
    (∃ lines, Reads charsets tree path name lines) ∨
      (∃ refusal, Refuses charsets tree path name refusal) ∨
      ∃ error, Escapes charsets tree path name error := by
  -- the name is looked at before the path, and the path before the file
  cases hasText : name.asText with
  | error halves => exact .inr (.inr ⟨_, .splitName hasText⟩)
  | ok text =>
    rw [WideText.asText_eq_ok_iff] at hasText
    by_cases hnul : '\x00' ∈ text
    · exact .inr (.inr ⟨_, .nulInName hasText hnul⟩)
    · have hname : Names name text := ⟨hasText, hnul⟩
      cases hhalves : FileName.refused? path.toText with
      | some halves => exact .inr (.inr ⟨_, .splitPath hname hhalves⟩)
      | none =>
        cases hholds : FileTree.holdsNul path with
        | true => exact .inr (.inr ⟨_, .nulInPath hname hhalves hholds⟩)
        | false =>
          obtain ⟨bytes, hread⟩ | ⟨cause, hread⟩ := FileTree.read_of_givable tree hhalves hholds
          · exact cases_of_read hname hread
          · by_cases hfound : cause = .notFound
            · subst hfound
              exact .inr (.inl ⟨_, .notFound hname hread⟩)
            · exact .inr (.inl ⟨_, .unreadable hname hread hfound⟩)

theorem readLines_eq_ok_iff :
    readLines charsets tree path name = .ok lines ↔ Reads charsets tree path name lines := by
  refine ⟨fun h => ?_, Reads.readLines_eq⟩
  obtain ⟨found, hfound⟩ | ⟨refusal, hrefuses⟩ | ⟨error, hescapes⟩ :=
    readLines_cases charsets tree path name
  · rw [hfound.readLines_eq] at h
    cases h
    exact hfound
  · rw [hrefuses.readLines_eq] at h
    cases h
  · rw [hescapes.readLines_eq] at h
    cases h

/-- Only a refusal names a path, and it is that of the header. -/
theorem not_escapes_refused {place : Path} :
    ¬ Escapes charsets tree path name (.refused refusal place) :=
  nofun

theorem readLines_eq_error_iff : readLines charsets tree path name = .error error ↔
    (∃ refusal, error = .refused refusal path ∧ Refuses charsets tree path name refusal) ∨
      Escapes charsets tree path name error := by
  constructor
  · intro h
    obtain ⟨found, hfound⟩ | ⟨refusal, hrefuses⟩ | ⟨cause, hescapes⟩ :=
      readLines_cases charsets tree path name
    · rw [hfound.readLines_eq] at h
      cases h
    · rw [hrefuses.readLines_eq] at h
      cases h
      exact .inl ⟨refusal, rfl, hrefuses⟩
    · rw [hescapes.readLines_eq] at h
      cases h
      exact .inr hescapes
  · rintro (⟨refusal, rfl, hrefuses⟩ | hescapes)
    · exact hrefuses.readLines_eq
    · exact hescapes.readLines_eq

/-- Whether nothing keeps a header from being read or refused. -/
structure Settled (charsets : Charsets) (tree : FileTree) (path : Path) (name : WideText) :
    Prop where
  names : ∃ text, Names name text
  no_halves : FileName.refused? path.toText = none
  no_nul : FileTree.holdsNul path = false
  not_stopped : ∀ text bytes decode, name = .ofText text → charsets text = some decode →
    tree.read path = .ok bytes → ∀ message, decode bytes ≠ .error (.stopped message)

theorem settled_iff :
    Settled charsets tree path name ↔ ∀ error, ¬ Escapes charsets tree path name error := by
  constructor
  · rintro ⟨⟨text, rfl, hclean⟩, hhalves, hnul, hdecodes⟩ error h
    cases h with
    | splitName hname => simp at hname
    | nulInName hname hmem =>
      rw [WideText.ofText_inj] at hname
      exact hclean (hname ▸ hmem)
    | splitPath hname hpath => simp [hhalves] at hpath
    | nulInPath hname hpath hholds => simp [hnul] at hholds
    | stopped hname hread hcharset hdecode =>
      exact hdecodes _ _ _ hname.eq_ofText hcharset hread _ hdecode
  · intro h
    have hnames : ∃ text, Names name text := by
      cases hasText : name.asText with
      | error halves => exact (h _ (.splitName hasText)).elim
      | ok text =>
        rw [WideText.asText_eq_ok_iff] at hasText
        exact ⟨text, hasText, fun hnul => h _ (.nulInName hasText hnul)⟩
    obtain ⟨text, hname⟩ := hnames
    have hdecodes : ∀ other bytes decode, name = .ofText other → charsets other = some decode →
        tree.read path = .ok bytes → ∀ message, decode bytes ≠ .error (.stopped message) := by
      intro other bytes decode hother hcharset hread message hdecode
      rw [hname.eq_ofText, WideText.ofText_inj] at hother
      exact h _ (.stopped hname hread (hother ▸ hcharset) hdecode)
    cases hhalves : FileName.refused? path.toText with
    | some halves => exact (h _ (.splitPath hname hhalves)).elim
    | none =>
      cases hholds : FileTree.holdsNul path with
      | true => exact (h _ (.nulInPath hname hhalves hholds)).elim
      | false => exact ⟨⟨text, hname⟩, hhalves, hholds, hdecodes⟩

/-- **Read, refused, or stopped**, whatever charsets the system knows. A header is read exactly if
the file at its path can be opened and decoded, and then its lines are those of the decoded text.
Where it is refused, it is so at its path. What else stops the reading are the path or the name of
the charset, if the system cannot be given them, and a charset that stops without naming bytes;
whenever none of these is the case, and only then, the header is read or refused, whatever the bytes
of the file are. Of the charsets that are modelled, only UTF-16 stops so, at data that lack their
byte order. -/
theorem readLines_outcomes (charsets : Charsets) (tree : FileTree) (path : Path)
    (name : WideText) :
    (∀ lines, readLines charsets tree path name = .ok lines ↔ Reads charsets tree path name lines) ∧
    (∀ refusal place, readLines charsets tree path name = .error (.refused refusal place) ↔
      place = path ∧ Refuses charsets tree path name refusal) ∧
    (∀ error, readLines charsets tree path name = .error error ↔
      (∃ refusal, error = .refused refusal path ∧ Refuses charsets tree path name refusal) ∨
        Escapes charsets tree path name error) ∧
    (((∃ lines, readLines charsets tree path name = .ok lines) ∨
        ∃ refusal, readLines charsets tree path name = .error (.refused refusal path)) ↔
      Settled charsets tree path name) ∧
    ∀ (charset : Charset) (bytes : Bytes),
      (∃ message, charset.decoder bytes = .error (.stopped message)) ↔
        charset = .utf16 ∧ Charset.Unmarked bytes := by
  refine ⟨fun lines => readLines_eq_ok_iff, fun refusal place => ?_,
    fun error => readLines_eq_error_iff, ?_, fun charset bytes => Charset.decoder_eq_stopped_iff⟩
  · rw [readLines_eq_error_iff, or_iff_left not_escapes_refused]
    constructor
    · rintro ⟨refused, heq, hrefuses⟩
      cases heq
      exact ⟨rfl, hrefuses⟩
    · rintro ⟨rfl, hrefuses⟩
      exact ⟨refusal, rfl, hrefuses⟩
  · rw [settled_iff]
    constructor
    · rintro (⟨lines, hok⟩ | ⟨refusal, hrefused⟩) error hescapes
      · rw [hescapes.readLines_eq] at hok
        cases hok
      · rw [hescapes.readLines_eq] at hrefused
        cases hrefused
        exact not_escapes_refused hescapes
    · intro hnot
      obtain ⟨lines, hreads⟩ | ⟨refusal, hrefuses⟩ | ⟨error, hescapes⟩ :=
        readLines_cases charsets tree path name
      · exact .inl ⟨lines, hreads.readLines_eq⟩
      · exact .inr ⟨refusal, hrefuses.readLines_eq⟩
      · exact (hnot error hescapes).elim

/-- A file with one letter in UTF-16, without a byte order mark. -/
def markless : FileTree := .ofEntries [("h.h".toList, .file [0x41, 0x00])]

/-- Not every header that is not read is refused at its path: not one in UTF-16 without a mark. -/
theorem not_forall_refused : ¬ ∀ (tree : FileTree) (text name : WideText),
    (∃ lines, readLines Charset.registry tree (Path.ofText text) name = .ok lines) ∨
      ∃ refusal, readLines Charset.registry tree (Path.ofText text) name =
        .error (.refused refusal (Path.ofText text)) := by
  intro h
  have hstops : readLines Charset.registry markless (Path.ofText "h.h".toList)
      "utf-16".toList = .error (.stopped "UTF-16 stream does not start with BOM".toList) := by
    decide +kernel
  obtain ⟨lines, hok⟩ | ⟨refusal, hrefused⟩ := h markless "h.h".toList "utf-16".toList
  · rw [hstops] at hok
    cases hok
  · rw [hstops] at hrefused
    cases hrefused

end HeaderFile

end StubVector
