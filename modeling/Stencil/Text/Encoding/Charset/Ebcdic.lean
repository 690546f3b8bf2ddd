import Stencil.Text.Encoding.Charset

/-! Character sets of the EBCDIC family, which order letters and digits in a way of their own. -/
namespace Stencil.Text.Charset

def ebcdic : List Charset := [
  ⟨"cp037", ["037", "csibm037", "ebcdic_cp_ca", "ebcdic_cp_nl", "ebcdic_cp_us", "ebcdic_cp_wt",
    "ibm037", "ibm039"],
    "\x00\x01\x02\x03\u009c\x09\u0086\x7f\u0097\u008d\u008e\x0b\x0c\x0d\x0e\x0f\x10\x11\x12\x13" ++
    "\u009d\u0085\x08\u0087\x18\x19\u0092\u008f\x1c\x1d\x1e\x1f\u0080\u0081\u0082\u0083\u0084" ++
    "\x0a\x17\x1b\u0088\u0089\u008a\u008b\u008c\x05\x06\x07\u0090\u0091\x16\u0093\u0094\u0095" ++
    "\u0096\x04\u0098\u0099\u009a\u009b\x14\x15\u009e\x1a\x20\u00a0âäàáãåçñ¢.<(+|&éêëèíîïìß!$*)" ++
    ";¬-\x2fÂÄÀÁÃÅÇÑ¦,%_>?øÉÊËÈÍÎÏÌ\x60:\x23@\x27=\x22Øabcdefghi«»ðýþ±°jklmnopqrªºæ¸Æ¤µ~stuvwxy" ++
    "z¡¿ÐÝÞ®^£¥·©§¶¼½¾[]¯¨´×\x7bABCDEFGHI\u00adôöòóõ\x7dJKLMNOPQR¹ûüùúÿ\x5c÷STUVWXYZ²ÔÖÒÓÕ01234" ++
    "56789³ÛÜÙÚ\u009f"⟩,
  ⟨"cp273", ["273", "ibm273", "csibm273"],
    "\x00\x01\x02\x03\u009c\x09\u0086\x7f\u0097\u008d\u008e\x0b\x0c\x0d\x0e\x0f\x10\x11\x12\x13" ++
    "\u009d\u0085\x08\u0087\x18\x19\u0092\u008f\x1c\x1d\x1e\x1f\u0080\u0081\u0082\u0083\u0084" ++
    "\x0a\x17\x1b\u0088\u0089\u008a\u008b\u008c\x05\x06\x07\u0090\u0091\x16\u0093\u0094\u0095" ++
    "\u0096\x04\u0098\u0099\u009a\u009b\x14\x15\u009e\x1a\x20\u00a0â\x7bàáãåçñÄ.<(+!&éêëèíîïì~Ü" ++
    "$*);^-\x2fÂ[ÀÁÃÅÇÑö,%_>?øÉÊËÈÍÎÏÌ\x60:\x23§\x27=\x22Øabcdefghi«»ðýþ±°jklmnopqrªºæ¸Æ¤µßstuv" ++
    "wxyz¡¿ÐÝÞ®¢£¥·©@¶¼½¾¬|‾¨´×äABCDEFGHI\u00adô¦òóõüJKLMNOPQR¹û\x7dùúÿÖ÷STUVWXYZ²Ô\x5cÒÓÕ01234" ++
    "56789³Û]ÙÚ\u009f"⟩,
  ⟨"cp424", ["424", "csibm424", "ebcdic_cp_he", "ibm424"],
    "\x00\x01\x02\x03\u009c\x09\u0086\x7f\u0097\u008d\u008e\x0b\x0c\x0d\x0e\x0f\x10\x11\x12\x13" ++
    "\u009d\u0085\x08\u0087\x18\x19\u0092\u008f\x1c\x1d\x1e\x1f\u0080\u0081\u0082\u0083\u0084" ++
    "\x0a\x17\x1b\u0088\u0089\u008a\u008b\u008c\x05\x06\x07\u0090\u0091\x16\u0093\u0094\u0095" ++
    "\u0096\x04\u0098\u0099\u009a\u009b\x14\x15\u009e\x1a\x20\u05d0\u05d1\u05d2\u05d3\u05d4" ++
    "\u05d5\u05d6\u05d7\u05d8¢.<(+|&\u05d9\u05da\u05db\u05dc\u05dd\u05de\u05df\u05e0\u05e1!$*);" ++
    "¬-\x2f\u05e2\u05e3\u05e4\u05e5\u05e6\u05e7\u05e8\u05e9¦,%_>?\ufffd\u05ea\ufffd\ufffd\u00a0" ++
    "\ufffd\ufffd\ufffd‗\x60:\x23@\x27=\x22\ufffdabcdefghi«»\ufffd\ufffd\ufffd±°jklmnopqr\ufffd" ++
    "\ufffd\ufffd¸\ufffd¤µ~stuvwxyz\ufffd\ufffd\ufffd\ufffd\ufffd®^£¥·©§¶¼½¾[]¯¨´×\x7bABCDEFGHI" ++
    "\u00ad\ufffd\ufffd\ufffd\ufffd\ufffd\x7dJKLMNOPQR¹\ufffd\ufffd\ufffd\ufffd\ufffd\x5c÷STUVW" ++
    "XYZ²\ufffd\ufffd\ufffd\ufffd\ufffd0123456789³\ufffd\ufffd\ufffd\ufffd\u009f"⟩,
  ⟨"cp500", ["500", "csibm500", "ebcdic_cp_be", "ebcdic_cp_ch", "ibm500"],
    "\x00\x01\x02\x03\u009c\x09\u0086\x7f\u0097\u008d\u008e\x0b\x0c\x0d\x0e\x0f\x10\x11\x12\x13" ++
    "\u009d\u0085\x08\u0087\x18\x19\u0092\u008f\x1c\x1d\x1e\x1f\u0080\u0081\u0082\u0083\u0084" ++
    "\x0a\x17\x1b\u0088\u0089\u008a\u008b\u008c\x05\x06\x07\u0090\u0091\x16\u0093\u0094\u0095" ++
    "\u0096\x04\u0098\u0099\u009a\u009b\x14\x15\u009e\x1a\x20\u00a0âäàáãåçñ[.<(+!&éêëèíîïìß]$*)" ++
    ";^-\x2fÂÄÀÁÃÅÇÑ¦,%_>?øÉÊËÈÍÎÏÌ\x60:\x23@\x27=\x22Øabcdefghi«»ðýþ±°jklmnopqrªºæ¸Æ¤µ~stuvwxy" ++
    "z¡¿ÐÝÞ®¢£¥·©§¶¼½¾¬|¯¨´×\x7bABCDEFGHI\u00adôöòóõ\x7dJKLMNOPQR¹ûüùúÿ\x5c÷STUVWXYZ²ÔÖÒÓÕ01234" ++
    "56789³ÛÜÙÚ\u009f"⟩,
  ⟨"cp875", [],
    "\x00\x01\x02\x03\u009c\x09\u0086\x7f\u0097\u008d\u008e\x0b\x0c\x0d\x0e\x0f\x10\x11\x12\x13" ++
    "\u009d\u0085\x08\u0087\x18\x19\u0092\u008f\x1c\x1d\x1e\x1f\u0080\u0081\u0082\u0083\u0084" ++
    "\x0a\x17\x1b\u0088\u0089\u008a\u008b\u008c\x05\x06\x07\u0090\u0091\x16\u0093\u0094\u0095" ++
    "\u0096\x04\u0098\u0099\u009a\u009b\x14\x15\u009e\x1a\x20ΑΒΓΔΕΖΗΘΙ[.<(+!&ΚΛΜΝΞΟΠΡΣ]$*);^-" ++
    "\x2fΤΥΦΧΨΩΪΫ|,%_>?¨ΆΈΉ\u00a0ΊΌΎΏ\x60:\x23@\x27=\x22΅abcdefghiαβγδεζ°jklmnopqrηθικλμ´~stuvw" ++
    "xyzνξοπρσ£άέήϊίόύϋώςτυφχψ\x7bABCDEFGHI\u00adωΐΰ‘―\x7dJKLMNOPQR±½\x1a·’¦\x5c\x1aSTUVWXYZ²§" ++
    "\x1a\x1a«¬0123456789³©\x1a\x1a»\u009f"⟩,
  ⟨"cp1026", ["1026", "csibm1026", "ibm1026"],
    "\x00\x01\x02\x03\u009c\x09\u0086\x7f\u0097\u008d\u008e\x0b\x0c\x0d\x0e\x0f\x10\x11\x12\x13" ++
    "\u009d\u0085\x08\u0087\x18\x19\u0092\u008f\x1c\x1d\x1e\x1f\u0080\u0081\u0082\u0083\u0084" ++
    "\x0a\x17\x1b\u0088\u0089\u008a\u008b\u008c\x05\x06\x07\u0090\u0091\x16\u0093\u0094\u0095" ++
    "\u0096\x04\u0098\u0099\u009a\u009b\x14\x15\u009e\x1a\x20\u00a0âäàáãå\x7bñÇ.<(+!&éêëèíîïìßĞ" ++
    "İ*);^-\x2fÂÄÀÁÃÅ[Ñş,%_>?øÉÊËÈÍÎÏÌı:ÖŞ\x27=ÜØabcdefghi«»\x7d\x60¦±°jklmnopqrªºæ¸Æ¤µöstuvwxy" ++
    "z¡¿]$@®¢£¥·©§¶¼½¾¬|¯¨´×çABCDEFGHI\u00adô~òóõğJKLMNOPQR¹û\x5cùúÿü÷STUVWXYZ²Ô\x23ÒÓÕ01234567" ++
    "89³Û\x22ÙÚ\u009f"⟩,
  ⟨"cp1140", ["1140", "ibm1140"],
    "\x00\x01\x02\x03\u009c\x09\u0086\x7f\u0097\u008d\u008e\x0b\x0c\x0d\x0e\x0f\x10\x11\x12\x13" ++
    "\u009d\u0085\x08\u0087\x18\x19\u0092\u008f\x1c\x1d\x1e\x1f\u0080\u0081\u0082\u0083\u0084" ++
    "\x0a\x17\x1b\u0088\u0089\u008a\u008b\u008c\x05\x06\x07\u0090\u0091\x16\u0093\u0094\u0095" ++
    "\u0096\x04\u0098\u0099\u009a\u009b\x14\x15\u009e\x1a\x20\u00a0âäàáãåçñ¢.<(+|&éêëèíîïìß!$*)" ++
    ";¬-\x2fÂÄÀÁÃÅÇÑ¦,%_>?øÉÊËÈÍÎÏÌ\x60:\x23@\x27=\x22Øabcdefghi«»ðýþ±°jklmnopqrªºæ¸Æ€µ~stuvwxy" ++
    "z¡¿ÐÝÞ®^£¥·©§¶¼½¾[]¯¨´×\x7bABCDEFGHI\u00adôöòóõ\x7dJKLMNOPQR¹ûüùúÿ\x5c÷STUVWXYZ²ÔÖÒÓÕ01234" ++
    "56789³ÛÜÙÚ\u009f"⟩
]

end Stencil.Text.Charset
