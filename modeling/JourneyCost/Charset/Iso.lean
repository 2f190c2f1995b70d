import JourneyCost.Charset.Basic

/-!
# The sets of ISO 8859

The parts of ISO 8859 but the first.  Their lower halves and their control characters have the
codes of the characters they stand for.
-/

namespace JourneyCost.Charset

/-- Parts 2 to 16 of ISO 8859. -/
def isoSets : List Charset :=
  [.ofChart "iso8859_2"
      ["csisolatin2", "iso_8859_2", "iso_8859_2_1987", "iso_ir_101", "l2", "latin2"] 161
      ["Ą˘Ł¤ĽŚ§¨ŠŞŤŹ\xadŽŻ°ą˛ł´ľśˇ¸šşťź˝žżŔÁÂĂÄĹĆÇČÉĘËĚÍÎĎĐŃŇÓÔŐÖ×ŘŮÚŰÜÝŢßŕáâăäĺćçčéęëěíîďđńňóô",
       "őö÷řůúűüýţ˙"],
   .ofChart "iso8859_3"
      ["csisolatin3", "iso_8859_3", "iso_8859_3_1988", "iso_ir_109", "l3", "latin3"] 161
      ["Ħ˘£¤�Ĥ§¨İŞĞĴ\xad�Ż°ħ²³´µĥ·¸ışğĵ½�żÀÁÂ�ÄĊĈÇÈÉÊËÌÍÎÏ�ÑÒÓÔĠÖ×ĜÙÚÛÜŬŜßàáâ�äċĉçèéêëìíîï�ñòóô",
       "ġö÷ĝùúûüŭŝ˙"],
   .ofChart "iso8859_4"
      ["csisolatin4", "iso_8859_4", "iso_8859_4_1988", "iso_ir_110", "l4", "latin4"] 161
      ["ĄĸŖ¤ĨĻ§¨ŠĒĢŦ\xadŽ¯°ą˛ŗ´ĩļˇ¸šēģŧŊžŋĀÁÂÃÄÅÆĮČÉĘËĖÍÎĪĐŅŌĶÔÕÖ×ØŲÚÛÜŨŪßāáâãäåæįčéęëėíîīđņōķô",
       "õö÷øųúûüũū˙"],
   .ofChart "iso8859_5"
      ["csisolatincyrillic", "cyrillic", "iso_8859_5", "iso_8859_5_1988", "iso_ir_144"] 161
      ["ЁЂЃЄЅІЇЈЉЊЋЌ\xadЎЏАБВГДЕЖЗИЙКЛМНОПРСТУФХЦЧШЩЪЫЬЭЮЯабвгдежзийклмнопрстуфхцчшщъыьэюя№ёђѓє",
       "ѕіїјљњћќ§ўџ"],
   .ofChart "iso8859_6"
      ["arabic", "asmo_708", "csisolatinarabic", "ecma_114", "iso_8859_6", "iso_8859_6_1987",
       "iso_ir_127"] 161
      ["���¤�������،\xad�������������؛���؟�ءآأؤإئابةتثجحخدذرزسشصضطظعغ�����ـفقكلمنهوىي\u064b",
       "\u064c\u064d\u064e\u064f\u0650\u0651\u0652�������������"],
   .ofChart "iso8859_7"
      ["csisolatingreek", "ecma_118", "elot_928", "greek", "greek8", "iso_8859_7",
       "iso_8859_7_1987", "iso_ir_126"] 161
      ["‘’£€₯¦§¨©ͺ«¬\xad�―°±²³΄΅Ά·ΈΉΊ»Ό½ΎΏΐΑΒΓΔΕΖΗΘΙΚΛΜΝΞΟΠΡ�ΣΤΥΦΧΨΩΪΫάέήίΰαβγδεζηθικλμνξοπρςστ",
       "υφχψωϊϋόύώ�"],
   .ofChart "iso8859_8"
      ["csisolatinhebrew", "hebrew", "iso_8859_8", "iso_8859_8_1988", "iso_ir_138"] 161
      ["�¢£¤¥¦§¨©×«¬\xad®¯°±²³´µ¶·¸¹÷»¼½¾��������������������������������‗אבגדהוזחטיךכלםמןנסעףפ",
       "ץצקרשת��\u200e\u200f�"],
   .ofChart "iso8859_9"
      ["csisolatin5", "iso_8859_9", "iso_8859_9_1989", "iso_ir_148", "l5", "latin5"] 208
      ["ĞÑÒÓÔÕÖ×ØÙÚÛÜİŞßàáâãäåæçèéêëìíîïğñòóôõö÷øùúûüış"],
   .ofChart "iso8859_10"
      ["csisolatin6", "iso_8859_10", "iso_8859_10_1992", "iso_ir_157", "l6", "latin6"] 161
      ["ĄĒĢĪĨĶ§ĻĐŠŦŽ\xadŪŊ°ąēģīĩķ·ļđšŧž―ūŋĀÁÂÃÄÅÆĮČÉĘËĖÍÎÏÐŅŌÓÔÕÖŨØŲÚÛÜÝÞßāáâãäåæįčéęëėíîïðņōóô",
       "õöũøųúûüýþĸ"],
   .ofChart "iso8859_11" ["iso_8859_11", "iso_8859_11_2001", "thai"] 161
      ["กขฃคฅฆงจฉชซฌญฎฏฐฑฒณดตถทธนบปผฝพฟภมยรฤลฦวศษสหฬอฮฯะ\u0e31าำ\u0e34\u0e35\u0e36\u0e37\u0e38",
       "\u0e39\u0e3a����฿เแโใไๅๆ\u0e47\u0e48\u0e49\u0e4a\u0e4b\u0e4c\u0e4d\u0e4e๏๐๑๒๓๔๕๖๗๘๙๚๛��",
       "��"],
   .ofChart "iso8859_13" ["iso_8859_13", "l7", "latin7"] 161
      ["”¢£¤„¦§Ø©Ŗ«¬\xad®Æ°±²³“µ¶·ø¹ŗ»¼½¾æĄĮĀĆÄÅĘĒČÉŹĖĢĶĪĻŠŃŅÓŌÕÖ×ŲŁŚŪÜŻŽßąįāćäåęēčéźėģķīļšńņóō",
       "õö÷ųłśūüżž’"],
   .ofChart "iso8859_14"
      ["iso_8859_14", "iso_8859_14_1998", "iso_celtic", "iso_ir_199", "l8", "latin8"] 161
      ["Ḃḃ£ĊċḊ§Ẁ©ẂḋỲ\xad®ŸḞḟĠġṀṁ¶ṖẁṗẃṠỳẄẅṡÀÁÂÃÄÅÆÇÈÉÊËÌÍÎÏŴÑÒÓÔÕÖṪØÙÚÛÜÝŶßàáâãäåæçèéêëìíîïŵñòóô",
       "õöṫøùúûüýŷ"],
   .ofChart "iso8859_15" ["iso_8859_15", "l9", "latin9"] 164
      ["€¥Š§š©ª«¬\xad®¯°±²³Žµ¶·ž¹º»ŒœŸ"],
   .ofChart "iso8859_16" ["iso_8859_16", "iso_8859_16_2001", "iso_ir_226", "l10", "latin10"] 161
      ["ĄąŁ€„Š§š©Ș«Ź\xadźŻ°±ČłŽ”¶·žčș»ŒœŸżÀÁÂĂÄĆÆÇÈÉÊËÌÍÎÏĐŃÒÓÔŐÖŚŰÙÚÛÜĘȚßàáâăäćæçèéêëìíîïđńòóô",
       "őöśűùúûüęț"]]

end JourneyCost.Charset
