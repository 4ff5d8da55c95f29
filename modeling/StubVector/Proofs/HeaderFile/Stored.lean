import StubVector.HeaderFile
import StubVector.Proofs.Charset.Stored
import StubVector.Proofs.FileTree.Writing
import StubVector.Proofs.Pipeline.Letters
import StubVector.Proofs.Text.Lines
import StubVector.Proofs.Text.Wide

/-!
# Headers that are stored

A header that is written to a file in a charset is read from there with the lines of its text. So it
makes no difference whether a text is generated from the file or from the lines.

* `Charset.registry_of_mem_usual`: the charsets of headers are in the registry.
* `HeaderFile.readLines_of_write`: the lines that are read.
* `HeaderFile.stored_headers_agree`: **the file stands for its text**, in the charsets of headers.
-/

namespace StubVector

/-- The registry reads in a charset of headers what is named after it. -/
theorem Charset.registry_of_mem_usual {named : Named} (h : named ∈ usual) :
    registry named.name.toList = some named.charset.decoder := by
  have hraw : ∀ named ∈ usual, normalName named.name.toList ≠ "raw_unicode_escape".toList := by
    decide +kernel
  rw [registry, if_neg (hraw named h), (ofName?_of_mem_usual named h).1, Option.map_some]

/-- **Characters generate what they generate as wide text**, and fail with the same wording. -/
theorem generate_ofText (path : Text) (lines : List Text) (kind mode : Selector) :
    generate (WideText.ofText path) (lines.map WideText.ofText) kind mode =
      ((generate path lines kind mode).map WideText.ofText).mapError (Failure.map .char) :=
  Letter.keeps_ofChar.generate_map path lines kind mode

theorem Failure.message_ofText (failure : Failure) :
    (failure.map CodePoint.char).message = WideText.ofText failure.message :=
  failure.message_map Letter.keeps_ofChar

namespace HeaderFile

variable {charsets : Charsets} {tree after : FileTree} {path : Path} {charset : Charset}
  {name text : Text} {bytes : Bytes}

/-- The text of a file is read from the bytes that are stored for it. -/
theorem readLines_of_write (hknown : charsets name = some charset.decoder) (hnul : '\x00' ∉ name)
    (hbytes : charset.encode text = .ok bytes) (hwrite : tree.write path bytes = .ok after) :
    readLines charsets after path name = .ok ((Text.splitLines text).map WideText.ofText) := by
  have hdecode : charset.decoder bytes = .ok (.ofText text) := by
    rw [Charset.decoder, Charset.decode_encode hbytes]
    rfl
  rw [readLines, (FileTree.writes_of_write hwrite).read_eq, linesOf]
  simp only [WideText.asText_ofText, if_neg hnul, hknown, hdecode,
    WideText.splitLines_unifyNewlines, WideText.splitLines_ofText]

/-- **The file stands for its text.** The charsets of headers are in the registry by their names,
and a text has bytes in one of them exactly if its characters have numbers below the bound. Once
these bytes are written to a file, the lines of the text are read from it on every system that knows
the charset, and so every output kind and dispatch mode gives what they give for these lines: the
same text, or the same failure at the same line. If no half of a pair is in the path either, this is
what is generated from text of characters, with the same wording of a failure. -/
theorem stored_headers_agree {named : Charset.Named} (hnamed : named ∈ Charset.usual)
    (text : Text) :
    Charset.registry named.name.toList = some named.charset.decoder ∧
    ((∃ bytes, named.charset.encode text = .ok bytes) ↔ ∀ c ∈ text, c.toNat < named.bound) ∧
    ∀ bytes, named.charset.encode text = .ok bytes →
      ∀ charsets : Charsets, charsets named.name.toList = some named.charset.decoder →
        ∀ tree after path, FileTree.write tree path bytes = .ok after →
          readLines charsets after path named.name.toList =
              .ok ((Text.splitLines text).map WideText.ofText) ∧
          ∀ kind mode,
            generate charsets after path kind mode named.name.toList =
              (StubVector.generate path.toText ((Text.splitLines text).map WideText.ofText) kind
                mode).mapError .failure ∧
            ∀ shown, path.toText = .ofText shown →
              (∀ out, StubVector.generate shown (Text.splitLines text) kind mode = .ok out →
                generate charsets after path kind mode named.name.toList = .ok (.ofText out)) ∧
              ∀ failure, StubVector.generate shown (Text.splitLines text) kind mode =
                  .error failure →
                generate charsets after path kind mode named.name.toList =
                    .error (.failure (failure.map .char)) ∧
                (Error.failure (failure.map .char)).message = WideText.ofText failure.message := by
  refine ⟨Charset.registry_of_mem_usual hnamed,
    Charset.exists_encode_eq_ok_iff_of_mem_usual hnamed, ?_⟩
  intro bytes hbytes charsets hknown tree after path hwrite
  have hlines := readLines_of_write hknown (Charset.ofName?_of_mem_usual named hnamed).2 hbytes
    hwrite
  refine ⟨hlines, fun kind mode => ?_⟩
  have hgenerate : generate charsets after path kind mode named.name.toList =
      (StubVector.generate path.toText ((Text.splitLines text).map WideText.ofText) kind
        mode).mapError .failure := by
    rw [generate, hlines]
  refine ⟨hgenerate, fun shown hshown => ⟨fun out hout => ?_, fun failure hfailure => ⟨?_, ?_⟩⟩⟩
  · rw [hgenerate, hshown, generate_ofText, hout]
    rfl
  · rw [hgenerate, hshown, generate_ofText, hfailure]
    rfl
  · exact Failure.message_ofText failure

/-- A text that begins with the character of the byte order mark, in UTF-16 with such a mark. -/
theorem stored_headers_agree_second_mark :
    ∃ after, (FileTree.ofEntries []).write (Path.ofText "h".toList)
        [0xFF, 0xFE, 0xFF, 0xFE, 0x0D, 0, 0x85, 0] = .ok after ∧
      readLines Charset.registry after (Path.ofText "h".toList) "utf-16".toList =
        .ok ["\uFEFF".toList, []] := by
  have hnamed : (⟨"utf-16", .utf16, 0x110000⟩ : Charset.Named) ∈ Charset.usual := by
    simp [Charset.usual]
  obtain ⟨hknown, -, h⟩ := stored_headers_agree hnamed ['\uFEFF', '\r', '\u0085']
  have hbytes : Charset.utf16.encode ['\uFEFF', '\r', '\u0085'] =
      .ok [0xFF, 0xFE, 0xFF, 0xFE, 0x0D, 0, 0x85, 0] := by decide +kernel
  have hwrite : (FileTree.ofEntries []).write (Path.ofText "h".toList)
      [0xFF, 0xFE, 0xFF, 0xFE, 0x0D, 0, 0x85, 0] =
        .ok (.ofEntries [("h".toList, .file [0xFF, 0xFE, 0xFF, 0xFE, 0x0D, 0, 0x85, 0])]) := by
    rfl
  exact ⟨_, hwrite, (h _ hbytes _ hknown _ _ _ hwrite).1⟩

end HeaderFile

end StubVector
