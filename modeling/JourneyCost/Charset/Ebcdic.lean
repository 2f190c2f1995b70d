import JourneyCost.Charset.Basic

/-!
# Code pages of mainframes

The code pages of the EBCDIC family, in which not even the basic letters have their usual codes.
-/

namespace JourneyCost.Charset

/-- Code pages of mainframes. -/
def ebcdicSets : List Charset :=
  [.ofChart "cp037"
      ["037", "csibm037", "ebcdic_cp_ca", "ebcdic_cp_nl", "ebcdic_cp_us", "ebcdic_cp_wt", "ibm037",
       "ibm039"] 4
      ["\x9c\x09\x86\x7f\x97\x8d\x8e\x0b\x0c\x0d\x0e\x0f\x10\x11\x12\x13\x9d\x85\x08\x87\x18",
       "\x19\x92\x8f\x1c\x1d\x1e\x1f\x80\x81\x82\x83\x84\x0a\x17\x1b\x88\x89\x8a\x8b\x8c\x05",
       "\x06\x07\x90\x91\x16\x93\x94\x95\x96\x04\x98\x99\x9a\x9b\x14\x15\x9e\x1a \xa0âäàáãåçñ¢.",
       "<(+|&éêëèíîïìß!$*);¬\x2d/ÂÄÀÁÃÅÇÑ¦,%_>?øÉÊËÈÍÎÏÌ\x60:#@'=\"Øabcdefghi«»ðýþ±°jklmnopqrªºæ¸Æ",
       "¤µ~stuvwxyz¡¿ÐÝÞ®^£¥·©§¶¼½¾[]¯¨´×\x7bABCDEFGHI\xadôöòóõ\x7dJKLMNOPQR¹ûüùúÿ\\÷STUVWXYZ²Ô",
       "ÖÒÓÕ0123456789³ÛÜÙÚ\x9f"],
   .ofChart "cp1026" ["1026", "csibm1026", "ibm1026"] 4
      ["\x9c\x09\x86\x7f\x97\x8d\x8e\x0b\x0c\x0d\x0e\x0f\x10\x11\x12\x13\x9d\x85\x08\x87\x18",
       "\x19\x92\x8f\x1c\x1d\x1e\x1f\x80\x81\x82\x83\x84\x0a\x17\x1b\x88\x89\x8a\x8b\x8c\x05",
       "\x06\x07\x90\x91\x16\x93\x94\x95\x96\x04\x98\x99\x9a\x9b\x14\x15\x9e\x1a \xa0âäàáãå\x7b",
       "ñÇ.<(+!&éêëèíîïìßĞİ*);^\x2d/ÂÄÀÁÃÅ[Ñş,%_>?øÉÊËÈÍÎÏÌı:ÖŞ'=ÜØabcdefghi«»\x7d\x60¦±°jklmnopqr",
       "ªºæ¸Æ¤µöstuvwxyz¡¿]$@®¢£¥·©§¶¼½¾¬|¯¨´×çABCDEFGHI\xadô~òóõğJKLMNOPQR¹û\\ùúÿü÷STUVWXYZ²Ô#",
       "ÒÓÕ0123456789³Û\"ÙÚ\x9f"],
   .ofChart "cp1140" ["1140", "ibm1140"] 4
      ["\x9c\x09\x86\x7f\x97\x8d\x8e\x0b\x0c\x0d\x0e\x0f\x10\x11\x12\x13\x9d\x85\x08\x87\x18",
       "\x19\x92\x8f\x1c\x1d\x1e\x1f\x80\x81\x82\x83\x84\x0a\x17\x1b\x88\x89\x8a\x8b\x8c\x05",
       "\x06\x07\x90\x91\x16\x93\x94\x95\x96\x04\x98\x99\x9a\x9b\x14\x15\x9e\x1a \xa0âäàáãåçñ¢.",
       "<(+|&éêëèíîïìß!$*);¬\x2d/ÂÄÀÁÃÅÇÑ¦,%_>?øÉÊËÈÍÎÏÌ\x60:#@'=\"Øabcdefghi«»ðýþ±°jklmnopqrªºæ¸Æ",
       "€µ~stuvwxyz¡¿ÐÝÞ®^£¥·©§¶¼½¾[]¯¨´×\x7bABCDEFGHI\xadôöòóõ\x7dJKLMNOPQR¹ûüùúÿ\\÷STUVWXYZ²Ô",
       "ÖÒÓÕ0123456789³ÛÜÙÚ\x9f"],
   .ofChart "cp273" ["273", "csibm273", "ibm273"] 4
      ["\x9c\x09\x86\x7f\x97\x8d\x8e\x0b\x0c\x0d\x0e\x0f\x10\x11\x12\x13\x9d\x85\x08\x87\x18",
       "\x19\x92\x8f\x1c\x1d\x1e\x1f\x80\x81\x82\x83\x84\x0a\x17\x1b\x88\x89\x8a\x8b\x8c\x05",
       "\x06\x07\x90\x91\x16\x93\x94\x95\x96\x04\x98\x99\x9a\x9b\x14\x15\x9e\x1a \xa0â\x7bàáãåç",
       "ñÄ.<(+!&éêëèíîïì~Ü$*);^\x2d/Â[ÀÁÃÅÇÑö,%_>?øÉÊËÈÍÎÏÌ\x60:#§'=\"Øabcdefghi«»ðýþ±°jklmnopqrªº",
       "æ¸Æ¤µßstuvwxyz¡¿ÐÝÞ®¢£¥·©@¶¼½¾¬|‾¨´×äABCDEFGHI\xadô¦òóõüJKLMNOPQR¹û\x7dùúÿÖ÷STUVWXYZ²Ô",
       "\\ÒÓÕ0123456789³Û]ÙÚ\x9f"],
   .ofChart "cp424" ["424", "csibm424", "ebcdic_cp_he", "ibm424"] 4
      ["\x9c\x09\x86\x7f\x97\x8d\x8e\x0b\x0c\x0d\x0e\x0f\x10\x11\x12\x13\x9d\x85\x08\x87\x18",
       "\x19\x92\x8f\x1c\x1d\x1e\x1f\x80\x81\x82\x83\x84\x0a\x17\x1b\x88\x89\x8a\x8b\x8c\x05",
       "\x06\x07\x90\x91\x16\x93\x94\x95\x96\x04\x98\x99\x9a\x9b\x14\x15\x9e\x1a אבגדהוזחט¢.<(+",
       "|&יךכלםמןנס!$*);¬\x2d/עףפץצקרש¦,%_>?�ת��\xa0���‗\x60:#@'=\"�abcdefghi«»���±°jklmnopqr���¸�",
       "¤µ~stuvwxyz�����®^£¥·©§¶¼½¾[]¯¨´×\x7bABCDEFGHI\xad�����\x7dJKLMNOPQR¹�����\\÷STUVWXYZ²�",
       "����0123456789³����\x9f"],
   .ofChart "cp500" ["500", "csibm500", "ebcdic_cp_be", "ebcdic_cp_ch", "ibm500"] 4
      ["\x9c\x09\x86\x7f\x97\x8d\x8e\x0b\x0c\x0d\x0e\x0f\x10\x11\x12\x13\x9d\x85\x08\x87\x18",
       "\x19\x92\x8f\x1c\x1d\x1e\x1f\x80\x81\x82\x83\x84\x0a\x17\x1b\x88\x89\x8a\x8b\x8c\x05",
       "\x06\x07\x90\x91\x16\x93\x94\x95\x96\x04\x98\x99\x9a\x9b\x14\x15\x9e\x1a \xa0âäàáãåçñ[.",
       "<(+!&éêëèíîïìß]$*);^\x2d/ÂÄÀÁÃÅÇÑ¦,%_>?øÉÊËÈÍÎÏÌ\x60:#@'=\"Øabcdefghi«»ðýþ±°jklmnopqrªºæ¸Æ",
       "¤µ~stuvwxyz¡¿ÐÝÞ®¢£¥·©§¶¼½¾¬|¯¨´×\x7bABCDEFGHI\xadôöòóõ\x7dJKLMNOPQR¹ûüùúÿ\\÷STUVWXYZ²Ô",
       "ÖÒÓÕ0123456789³ÛÜÙÚ\x9f"],
   .ofChart "cp875" [] 4
      ["\x9c\x09\x86\x7f\x97\x8d\x8e\x0b\x0c\x0d\x0e\x0f\x10\x11\x12\x13\x9d\x85\x08\x87\x18",
       "\x19\x92\x8f\x1c\x1d\x1e\x1f\x80\x81\x82\x83\x84\x0a\x17\x1b\x88\x89\x8a\x8b\x8c\x05",
       "\x06\x07\x90\x91\x16\x93\x94\x95\x96\x04\x98\x99\x9a\x9b\x14\x15\x9e\x1a ΑΒΓΔΕΖΗΘΙ[.<(+",
       "!&ΚΛΜΝΞΟΠΡΣ]$*);^\x2d/ΤΥΦΧΨΩΪΫ|,%_>?¨ΆΈΉ\xa0ΊΌΎΏ\x60:#@'=\"΅abcdefghiαβγδεζ°jklmnopqrηθικλ",
       "μ´~stuvwxyzνξοπρσ£άέήϊίόύϋώςτυφχψ\x7bABCDEFGHI\xadωΐΰ‘―\x7dJKLMNOPQR±½\x1a·’¦\\\x1aSTUV",
       "WXYZ²§\x1a\x1a«¬0123456789³©\x1a\x1a»\x9f"]]

end JourneyCost.Charset
