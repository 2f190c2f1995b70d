import JourneyCost.Charset.Basic
import JourneyCost.Charset.Escaped
import JourneyCost.Charset.Punycode
import JourneyCost.Charset.Shifted

/-!
# Sets with all characters

The written forms of Unicode, and the first and oldest parts of it with a byte for each character.
-/

namespace JourneyCost.Charset

open Text

/-- The characters of basic bytes. -/
def readBasic (bytes : Bytes) : List (Option Char) :=
  bytes.map fun b => if b < 128 then some (Char.ofNat b.toNat) else none

/-- The characters whose codes the bytes are. -/
def readCodes (bytes : Bytes) : List (Option Char) :=
  bytes.map fun b => some (Char.ofNat b.toNat)

/-- The characters in UTF-8 after the mark that may come before them. -/
def readMarked (bytes : Bytes) : List (Option Char) :=
  match bytes with
  | 0xEF :: 0xBB :: 0xBF :: rest => charsFrom false .none rest
  | bytes => charsFrom false .none bytes

/-- The forms with all characters, and the sets whose bytes are codes. -/
def unicodeSets : List Charset :=
  [lossy "utf_8" ["cp65001", "u8", "utf", "utf8", "utf8_ucs2", "utf8_ucs4"]
     (charsFrom false .none),
   lossy "utf_8_sig" [] readMarked,
   lossy "utf_7" ["u7", "unicode_1_1_utf_7", "utf7"] readShifted,
   lossy "utf_16" ["u16", "utf16"] readPairs,
   lossy "utf_16_le" ["unicodelittleunmarked", "utf_16le"] (readEach (readPair .lowFirst)),
   lossy "utf_16_be" ["unicodebigunmarked", "utf_16be"] (readEach (readPair .highFirst)),
   lossy "utf_32" ["u32", "utf32"] readQuads,
   lossy "utf_32_le" ["utf_32le"] (readEach (readQuad .lowFirst)),
   lossy "utf_32_be" ["utf_32be"] (readEach (readQuad .highFirst)),
   lossy "ascii"
     ["646", "ansi_x3.4_1968", "ansi_x3.4_1986", "ansi_x3_4_1968", "cp367", "csascii", "ibm367",
      "iso646_us", "iso_646.irv_1991", "iso_ir_6", "us", "us_ascii"] readBasic,
   lossy "latin_1"
     ["8859", "cp819", "csisolatin1", "ibm819", "iso8859", "iso8859_1", "iso_8859_1",
      "iso_8859_1_1987", "iso_ir_100", "l1", "latin", "latin1"] readCodes,
   lossy "charmap" [] readCodes,
   lossy "unicode_escape" [] (readEach readEscape),
   lossy "raw_unicode_escape" [] (readEach readLongEscape),
   ⟨"punycode", [], readInserted false, readInserted true⟩]

/-- Codings that cannot pass over what they cannot read, and codings of bytes. -/
def refusingSets : List Charset :=
  [⟨"idna", [], readNone .strictEncoding, readLabels⟩,
   refusing "undefined" [] .strictEncoding,
   refusing "base64_codec" ["base64", "base_64"] .noTextEncoding,
   refusing "bz2_codec" ["bz2"] .noTextEncoding,
   refusing "hex_codec" ["hex"] .noTextEncoding,
   refusing "quopri_codec" ["quopri", "quoted_printable", "quotedprintable"] .noTextEncoding,
   refusing "rot_13" ["rot13"] .noTextEncoding,
   refusing "uu_codec" ["uu"] .noTextEncoding,
   refusing "zlib_codec" ["zip", "zlib"] .noTextEncoding]

end JourneyCost.Charset
