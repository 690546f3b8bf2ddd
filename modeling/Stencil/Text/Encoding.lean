import Stencil.Text.Encoding.Charset.CodePages
import Stencil.Text.Encoding.Charset.Ebcdic
import Stencil.Text.Encoding.Charset.Makers
import Stencil.Text.Encoding.Charset.Standards
import Stencil.Text.Encoding.EastAsian
import Stencil.Text.Encoding.Escaped
import Stencil.Text.Encoding.HostName
import Stencil.Text.Encoding.Utf7
import Stencil.Text.Encoding.Utf8
import Stencil.Text.Encoding.Wide

/-! Encodings of text files, and the names they go by. -/
namespace Stencil.Text

inductive Encoding
  | utf8
  /-- UTF-8 with an optional byte order mark in front. -/
  | utf8Marked
  | utf16 (order : ByteOrder)
  /-- UTF-16 in the order that the byte order mark in front shows. -/
  | utf16Marked
  | utf32 (order : ByteOrder)
  | utf32Marked
  | utf7
  | ascii
  | charset (s : Charset)
  | eastAsian (e : EastAsian)
  | escaped
  | rawEscaped
  | punycode
  | hostName
  /-- The encoding of no text. -/
  | undefined
deriving DecidableEq, Repr

namespace Encoding

/-- The byte order mark as it is encoded. -/
def byteOrderMark : List UInt8 := [0xef, 0xbb, 0xbf]

/-- The number of the byte order mark. -/
def markCode : Nat := 0xfeff

/-- The order in which the first `width` bytes are the byte order mark. -/
def markedOrder? (width : Nat) (bytes : List UInt8) : Option ByteOrder :=
  [ByteOrder.little, .big].find? fun order =>
    width ≤ bytes.length && order.number (bytes.take width) = markCode

/-- Decodes what follows the byte order mark in units of `width` bytes. Where there is none, the
text is faulty, but a fault of its bytes in little-endian order is reported first. -/
def decodeMarked (width : Nat) (form : String)
    (decode : ByteOrder → (offset : Nat) → List UInt8 → Except DecodeFault (List Char))
    (bytes : List UInt8) : Except DecodeFault (List Char) :=
  match markedOrder? width bytes with
  | some order => decode order width (bytes.drop width)
  | none =>
    match decode .little 0 bytes with
    | .ok [] => .ok []
    | .ok (_ :: _) => .error (.unmarked form)
    | .error fault => .error fault

/-- Positions are counted after the byte order mark of UTF-8, and a file that ends within this mark
is empty. -/
def decode (e : Encoding) (bytes : List UInt8) : Except DecodeFault Text :=
  let plain (cs : Except DecodeFault (List Char)) : Except DecodeFault Text := cs.map .ofChars
  match e with
  | utf8 => plain (decodeUtf8 0 0 bytes)
  | utf8Marked =>
    match byteOrderMark.isPrefixOf? bytes with
    | some rest => plain (decodeUtf8 0 0 rest)
    | none =>
      if bytes.isPrefixOf byteOrderMark then .ok [] else plain (decodeUtf8 0 0 bytes)
  | utf16 order => plain (decodeUtf16 order 0 bytes)
  | utf16Marked => plain (decodeMarked 2 "UTF-16" decodeUtf16 bytes)
  | utf32 order => plain (decodeUtf32 order 0 bytes)
  | utf32Marked => plain (decodeMarked 4 "UTF-32" decodeUtf32 bytes)
  | utf7 => Utf7.decode bytes
  | ascii => plain (decodeAscii 0 bytes)
  | charset s => plain (s.decode bytes)
  | eastAsian e => e.decode bytes
  | escaped => Escaped.decode bytes
  | rawEscaped => Escaped.decodeRaw bytes
  | punycode => Punycode.decode bytes
  | hostName => HostName.decode bytes
  | undefined => .error .noText

/-- An encoding by its own name and the others it goes by. A coding of bytes that is no encoding of
texts has names too. -/
structure Entry where
  name : String
  others : List String
  encoding : Option Encoding

def entries : List Entry := [
  ⟨"utf_8", ["u8", "utf", "utf8", "utf8_ucs2", "utf8_ucs4", "cp65001"], some utf8⟩,
  ⟨"utf_8_sig", [], some utf8Marked⟩,
  ⟨"utf_16", ["u16", "utf16"], some utf16Marked⟩,
  ⟨"utf_16_le", ["unicodelittleunmarked", "utf_16le"], some (utf16 .little)⟩,
  ⟨"utf_16_be", ["unicodebigunmarked", "utf_16be"], some (utf16 .big)⟩,
  ⟨"utf_32", ["u32", "utf32"], some utf32Marked⟩,
  ⟨"utf_32_le", ["utf_32le"], some (utf32 .little)⟩,
  ⟨"utf_32_be", ["utf_32be"], some (utf32 .big)⟩,
  ⟨"utf_7", ["u7", "utf7", "unicode_1_1_utf_7"], some utf7⟩,
  ⟨"unicode_escape", [], some escaped⟩,
  ⟨"raw_unicode_escape", [], some rawEscaped⟩,
  ⟨"punycode", [], some punycode⟩,
  ⟨"idna", [], some hostName⟩,
  ⟨"undefined", [], some undefined⟩,
  ⟨"ascii", ["646", "ansi_x3.4_1968", "ansi_x3_4_1968", "ansi_x3.4_1986", "cp367", "csascii",
    "ibm367", "iso646_us", "iso_646.irv_1991", "iso_ir_6", "us", "us_ascii"], some ascii⟩,
  ⟨"base64_codec", ["base64", "base_64"], none⟩,
  ⟨"bz2_codec", ["bz2"], none⟩,
  ⟨"hex_codec", ["hex"], none⟩,
  ⟨"quopri_codec", ["quopri", "quoted_printable", "quotedprintable"], none⟩,
  ⟨"rot_13", ["rot13"], none⟩,
  ⟨"uu_codec", ["uu"], none⟩,
  ⟨"zlib_codec", ["zip", "zlib"], none⟩
]

/-- The character set in which every byte has the number of its character. -/
def latin1 : Charset :=
  ⟨"latin_1", ["8859", "cp819", "csisolatin1", "ibm819", "iso8859", "iso8859_1", "iso_8859_1",
    "iso_8859_1_1987", "iso_ir_100", "l1", "latin", "latin1"], ""⟩

def charsets : List Charset :=
  latin1 :: ⟨"charmap", [], ""⟩ ::
    (Charset.standards ++ Charset.codePages ++ Charset.ebcdic ++ Charset.makers)

def known : List Entry :=
  entries ++ charsets.map (fun s => ⟨s.name, s.others, some (charset s)⟩) ++
    EastAsian.all.map fun (e, others) => ⟨e.name, others, some (eastAsian e)⟩

/-- Lower case letters, digits and dots with an underscore for each run of other characters. -/
def plainName (name : String) : String :=
  "_".intercalate <|
    ((name.toList.splitOnP fun c => !(c.isAlphanum || c = '.')).filter (!·.isEmpty)).map
      fun cs => String.ofList (cs.map Char.toLower)

/-- Looks a plain name up. A dot may stand for an underscore in any name but an encoding's own. -/
def entry? (name : String) : Option Entry :=
  let undotted := name.map fun c => if c = '.' then '_' else c
  known.find? (·.others.contains name) <|> known.find? (·.others.contains undotted) <|>
    known.find? (·.name = name)

/-- Why no encoding can be had by a name. -/
inductive NameFault
  | hasNull
  | unknown
  | noText
deriving DecidableEq, Repr

namespace NameFault

/-- As many characters as `count` bytes hold, and a hole for one that is cut. -/
def cut (count : Nat) : List Char → List Char
  | [] => []
  | c :: cs =>
    if c.utf8Size ≤ count then c :: cut (count - c.utf8Size) cs
    else if count = 0 then []
    else [Charset.hole]

/-- The message about a name; one of no encoding of texts is cut at four hundred bytes. -/
def message (name : String) : NameFault → Text
  | hasNull => "embedded null character"
  | unknown => s!"unknown encoding: {name}"
  | noText =>
    let shown := String.ofList (cut 400 name.toList)
    s!"'{shown}' is not a text encoding; use codecs.open() to handle arbitrary codecs"

end NameFault

/-- The encoding of a name; `locale` names that of the surroundings, which is UTF-8. -/
def ofName (name : String) : Except NameFault Encoding :=
  if name.toList.contains '\x00' then .error .hasNull
  else if name = "locale" then .ok utf8
  else
    match entry? (plainName name) with
    | none => .error .unknown
    | some entry =>
      match entry.encoding with
      | some e => .ok e
      | none => .error .noText

end Encoding

end Stencil.Text
