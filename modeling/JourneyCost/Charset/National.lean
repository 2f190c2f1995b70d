import JourneyCost.Charset.Basic

/-!
# Sets of single countries and makers

Cyrillic, Thai and Urdu sets, and two sets of makers of computers.
-/

namespace JourneyCost.Charset

/-- Sets of single countries and makers. -/
def nationalSets : List Charset :=
  [.ofChart "koi8_r" ["cskoi8r"] 128
      ["─│┌┐└┘├┤┬┴┼▀▄█▌▐░▒▓⌠■∙√≈≤≥\xa0⌡°²·÷═║╒ё╓╔╕╖╗╘╙╚╛╜╝╞╟╠╡Ё╢╣╤╥╦╧╨╩╪╫╬©юабцдефгхийклмнопярс",
       "тужвьызшэщчъЮАБЦДЕФГХИЙКЛМНОПЯРСТУЖВЬЫЗШЭЩЧЪ"],
   .ofChart "koi8_t" [] 128
      ["қғ‚Ғ„…†‡�‰ҳ‹ҲҷҶ�Қ‘’“”•–—�™�›�����ӯӮё¤ӣ¦§���«¬\xad®�°±²Ё�Ӣ¶·�№�»���©юабцдефгхийклмнопярс",
       "тужвьызшэщчъЮАБЦДЕФГХИЙКЛМНОПЯРСТУЖВЬЫЗШЭЩЧЪ"],
   .ofChart "koi8_u" [] 128
      ["─│┌┐└┘├┤┬┴┼▀▄█▌▐░▒▓⌠■∙√≈≤≥\xa0⌡°²·÷═║╒ёє╔ії╗╘╙╚╛ґ╝╞╟╠╡ЁЄ╣ІЇ╦╧╨╩╪Ґ╬©юабцдефгхийклмнопярс",
       "тужвьызшэщчъЮАБЦДЕФГХИЙКЛМНОПЯРСТУЖВЬЫЗШЭЩЧЪ"],
   .ofChart "kz1048" ["kz_1048", "rk1048", "strk1048_2002"] 128
      ["ЂЃ‚ѓ„…†‡€‰Љ‹ЊҚҺЏђ‘’“”•–—�™љ›њқһџ\xa0ҰұӘ¤Ө¦§Ё©Ғ«¬\xad®Ү°±Ііөµ¶·ё№ғ»әҢңүАБВГДЕЖЗИЙКЛМНОПР",
       "СТУФХЦЧШЩЪЫЬЭЮЯабвгдежзийклмнопрстуфхцчшщъыьэюя"],
   .ofChart "ptcp154" ["cp154", "csptcp154", "cyrillic_asian", "pt154"] 128
      ["ҖҒӮғ„…ҶҮҲүҠӢҢҚҺҸҗ‘’“”•–—ҳҷҡӣңқһҹ\xa0ЎўЈӨҘҰ§Ё©Ә«¬ӯ®Ҝ°ұІіҙө¶·ё№ә»јҪҫҝАБВГДЕЖЗИЙКЛМНОПРСТУ",
       "ФХЦЧШЩЪЫЬЭЮЯабвгдежзийклмнопрстуфхцчшщъыьэюя"],
   .ofChart "tis_620" ["iso_ir_166", "tis620", "tis_620_0", "tis_620_2529_0", "tis_620_2529_1"] 160
      ["�กขฃคฅฆงจฉชซฌญฎฏฐฑฒณดตถทธนบปผฝพฟภมยรฤลฦวศษสหฬอฮฯะ\u0e31าำ\u0e34\u0e35\u0e36\u0e37\u0e38",
       "\u0e39\u0e3a����฿เแโใไๅๆ\u0e47\u0e48\u0e49\u0e4a\u0e4b\u0e4c\u0e4d\u0e4e๏๐๑๒๓๔๕๖๗๘๙๚๛��",
       "��"],
   .ofChart "cp1006" [] 161
      ["۰۱۲۳۴۵۶۷۸۹،؛\xad؟ﺁﺍﺎﺎﺏﺑﭖﭘﺓﺕﺗﭦﭨﺙﺛﺝﺟﭺﭼﺡﺣﺥﺧﺩﮄﺫﺭﮌﺯﮊﺱﺳﺵﺷﺹﺻﺽﺿﻁﻅﻉﻊﻋﻌﻍﻎﻏﻐﻑﻓﻕﻗﻙﻛﮒﮔﻝﻟﻠﻡﻣﮞﻥﻧﺅﻭﮦﮨﮩﮪ",
       "ﺀﺉﺊﺋﻱﻲﻳﮰﮮﹼﹽ"],
   .ofChart "hp_roman8" ["cp1051", "ibm1051", "r8", "roman8"] 161
      ["ÀÂÈÊËÎÏ´ˋˆ¨˜ÙÛ₤¯Ýý°ÇçÑñ¡¿¤£¥§ƒ¢âêôûáéóúàèòùäëöüÅîØÆåíøæÄìÖÜÉïßÔÁÃãÐðÍÌÓÒÕõŠšÚŸÿÞþ·µ¶¾—¼",
       "½ªº«■»±�"],
   .ofChart "palmos" [] 128
      ["€\x81‚ƒ„…†‡ˆ‰Š‹Œ♦♣♥♠‘’“”•–—˜™š\x9bœ\x9d\x9eŸ"]]

end JourneyCost.Charset
