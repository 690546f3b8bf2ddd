import Stencil.Text.Encoding.Chinese
import Stencil.Text.Encoding.Iso2022
import Stencil.Text.Encoding.Korean

/-! The encodings of Chinese, Japanese and Korean. -/
namespace Stencil.Text

inductive EastAsian
  | big5
  | big5Windows
  | big5HongKong
  | gb2312
  | gbk
  | gb18030
  | hz
  | unixJapanese (edition : JisEdition)
  | shiftJis (edition : JisEdition)
  | windowsJapanese
  | unixKorean
  | unifiedHangul
  | johab
  | iso2022 (variant : Iso2022.Variant)
deriving DecidableEq, Repr

namespace EastAsian

def name : EastAsian → String
  | big5 => "big5"
  | big5Windows => "cp950"
  | big5HongKong => "big5hkscs"
  | gb2312 => "gb2312"
  | gbk => "gbk"
  | gb18030 => "gb18030"
  | hz => "hz"
  | unixJapanese .x0208 => "euc_jp"
  | unixJapanese (.x0213 false) => "euc_jisx0213"
  | unixJapanese (.x0213 true) => "euc_jis_2004"
  | shiftJis .x0208 => "shift_jis"
  | shiftJis (.x0213 false) => "shift_jisx0213"
  | shiftJis (.x0213 true) => "shift_jis_2004"
  | windowsJapanese => "cp932"
  | unixKorean => "euc_kr"
  | unifiedHangul => "cp949"
  | johab => "johab"
  | iso2022 variant => variant.name

/-- The encodings with the other names they go by. -/
def all : List (EastAsian × List String) := [
  (big5, ["big5_tw", "csbig5", "x_mac_trad_chinese"]),
  (big5Windows, ["950", "ms950"]),
  (big5HongKong, ["big5_hkscs", "hkscs"]),
  (gb2312, ["chinese", "csiso58gb231280", "euc_cn", "euccn", "eucgb2312_cn", "gb2312_1980",
    "gb2312_80", "iso_ir_58", "x_mac_simp_chinese"]),
  (gbk, ["936", "cp936", "ms936"]),
  (gb18030, ["gb18030_2000"]),
  (hz, ["hzgb", "hz_gb", "hz_gb_2312"]),
  (unixJapanese .x0208, ["eucjp", "ujis", "u_jis"]),
  (unixJapanese (.x0213 false), ["eucjisx0213"]),
  (unixJapanese (.x0213 true), ["jisx0213", "eucjis2004", "euc_jis2004"]),
  (shiftJis .x0208, ["csshiftjis", "shiftjis", "sjis", "s_jis", "x_mac_japanese"]),
  (shiftJis (.x0213 false), ["shiftjisx0213", "sjisx0213", "s_jisx0213"]),
  (shiftJis (.x0213 true), ["shiftjis2004", "sjis_2004", "s_jis_2004"]),
  (windowsJapanese, ["932", "ms932", "mskanji", "ms_kanji"]),
  (unixKorean, ["euckr", "korean", "ksc5601", "ks_c_5601", "ks_c_5601_1987", "ksx1001", "ks_x_1001",
    "x_mac_korean"]),
  (unifiedHangul, ["949", "ms949", "uhc"]),
  (johab, ["cp1361", "ms1361"]),
  (iso2022 .jp, ["csiso2022jp", "iso2022jp", "iso_2022_jp"]),
  (iso2022 .jp1, ["iso2022jp_1", "iso_2022_jp_1"]),
  (iso2022 .jp2, ["iso2022jp_2", "iso_2022_jp_2"]),
  (iso2022 .jp3, ["iso2022jp_3", "iso_2022_jp_3"]),
  (iso2022 .jp2004, ["iso_2022_jp_2004", "iso2022jp_2004"]),
  (iso2022 .jpExt, ["iso2022jp_ext", "iso_2022_jp_ext"]),
  (iso2022 .kr, ["csiso2022kr", "iso2022kr", "iso_2022_kr"])]

def decode (e : EastAsian) (bytes : List UInt8) : Except DecodeFault Text :=
  let plain (take : Unit → List UInt8 → Intake Unit) := Intake.decode e.name take () 0 bytes
  match e with
  | big5 => plain Chinese.takeBig5
  | big5Windows => plain Chinese.takeBig5Windows
  | big5HongKong => plain Chinese.takeHongKong
  | gb2312 => plain Chinese.takeGb2312
  | gbk => plain Chinese.takeGbk
  | gb18030 => plain Chinese.takeGb18030
  | hz => Intake.decode e.name Chinese.takeHz false 0 bytes
  | unixJapanese edition => plain (Japanese.takeUnix edition)
  | shiftJis edition => plain (Japanese.takeShifted edition)
  | windowsJapanese => plain Japanese.takeWindows
  | unixKorean => plain Korean.takeUnix
  | unifiedHangul => plain Korean.takeUnified
  | johab => plain Korean.takeJohab
  | iso2022 variant => Intake.decode e.name (Iso2022.take variant) Iso2022.start 0 bytes

end EastAsian

end Stencil.Text
