import JourneyCost.Charset.Basic

/-!
# Sets of the Macintosh

One set for each group of languages.
-/

namespace JourneyCost.Charset

/-- Sets of the Macintosh. -/
def macSets : List Charset :=
  [.ofChart "mac_roman" ["macintosh", "macroman"] 128
      ["ÄÅÇÉÑÖÜáàâäãåçéèêëíìîïñóòôöõúùûü†°¢£§•¶ß®©™´¨≠ÆØ∞±≤≥¥µ∂∑∏π∫ªºΩæø¿¡¬√ƒ≈∆«»…\xa0ÀÃÕŒœ–—“”",
       "‘’÷◊ÿŸ⁄€‹›ﬁﬂ‡·‚„‰ÂÊÁËÈÍÎÏÌÓÔ\uf8ffÒÚÛÙıˆ˜¯˘˙˚¸˝˛ˇ"],
   .ofChart "mac_croatian" [] 128
      ["ÄÅÇÉÑÖÜáàâäãåçéèêëíìîïñóòôöõúùûü†°¢£§•¶ß®Š™´¨≠ŽØ∞±≤≥∆µ∂∑∏š∫ªºΩžø¿¡¬√ƒ≈Ć«Č…\xa0ÀÃÕŒœĐ—“”",
       "‘’÷◊\uf8ff©⁄€‹›Æ»–·‚„‰ÂćÁčÈÍÎÏÌÓÔđÒÚÛÙıˆ˜¯πË˚¸Êæˇ"],
   .ofChart "mac_romanian" [] 128
      ["ÄÅÇÉÑÖÜáàâäãåçéèêëíìîïñóòôöõúùûü†°¢£§•¶ß®©™´¨≠ĂȘ∞±≤≥¥µ∂∑∏π∫ªºΩăș¿¡¬√ƒ≈∆«»…\xa0ÀÃÕŒœ–—“”",
       "‘’÷◊ÿŸ⁄€‹›Țț‡·‚„‰ÂÊÁËÈÍÎÏÌÓÔ\uf8ffÒÚÛÙıˆ˜¯˘˙˚¸˝˛ˇ"],
   .ofChart "mac_turkish" ["macturkish"] 128
      ["ÄÅÇÉÑÖÜáàâäãåçéèêëíìîïñóòôöõúùûü†°¢£§•¶ß®©™´¨≠ÆØ∞±≤≥¥µ∂∑∏π∫ªºΩæø¿¡¬√ƒ≈∆«»…\xa0ÀÃÕŒœ–—“”",
       "‘’÷◊ÿŸĞğİıŞş‡·‚„‰ÂÊÁËÈÍÎÏÌÓÔ\uf8ffÒÚÛÙ\uf8a0ˆ˜¯˘˙˚¸˝˛ˇ"],
   .ofChart "mac_iceland" ["maciceland"] 128
      ["ÄÅÇÉÑÖÜáàâäãåçéèêëíìîïñóòôöõúùûüÝ°¢£§•¶ß®©™´¨≠ÆØ∞±≤≥¥µ∂∑∏π∫ªºΩæø¿¡¬√ƒ≈∆«»…\xa0ÀÃÕŒœ–—“”",
       "‘’÷◊ÿŸ⁄€ÐðÞþý·‚„‰ÂÊÁËÈÍÎÏÌÓÔ\uf8ffÒÚÛÙıˆ˜¯˘˙˚¸˝˛ˇ"],
   .ofChart "mac_greek" ["macgreek"] 128
      ["Ä¹²É³ÖÜ΅àâä΄¨çéèêë£™îï•½‰ôö¦€ùûü†ΓΔΘΛΞΠß®©ΣΪ§≠°·Α±≤≥¥ΒΕΖΗΙΚΜΦΫΨΩάΝ¬ΟΡ≈Τ«»…\xa0ΥΧΆΈœ–―“”",
       "‘’÷ΉΊΌΎέήίόΏύαβψδεφγηιξκλμνοπώρστθωςχυζϊϋΐΰ\xad"],
   .ofChart "mac_latin2" ["mac_centeuro", "maccentraleurope", "maclatin2"] 128
      ["ÄĀāÉĄÖÜáąČäčĆćéŹźĎíďĒēĖóėôöõúĚěü†°Ę£§•¶ß®©™ę¨≠ģĮįĪ≤≥īĶ∂∑łĻļĽľĹĺŅņŃ¬√ńŇ∆«»…\xa0ňŐÕőŌ–—“”",
       "‘’÷◊ōŔŕŘ‹›řŖŗŠ‚„šŚśÁŤťÍŽžŪÓÔūŮÚůŰűŲųÝýķŻŁżĢˇ"],
   .ofChart "mac_cyrillic" ["maccyrillic"] 128
      ["АБВГДЕЖЗИЙКЛМНОПРСТУФХЦЧШЩЪЫЬЭЮЯ†°Ґ£§•¶І®©™Ђђ≠Ѓѓ∞±≤≥іµґЈЄєЇїЉљЊњјЅ¬√ƒ≈∆«»…\xa0ЋћЌќѕ–—“”",
       "‘’÷„ЎўЏџ№Ёёяабвгдежзийклмнопрстуфхцчшщъыьэю€"],
   .ofChart "mac_arabic" [] 128
      ["Ä\xa0ÇÉÑÖÜáàâäں«çéèêëí…îïñó»ôö÷úùûü !\"#$٪&'()*+،-./٠١٢٣٤٥٦٧٨٩:؛<=>؟❊ءآأؤإئابةتثجحخدذرز",
       "سشصضطظعغ[\\]^_ـفقكلمنهوىي\u064b\u064c\u064d\u064e\u064f\u0650\u0651\u0652پٹچەڤگڈڑ\x7b|",
       "\x7dژے"],
   .ofChart "mac_farsi" [] 128
      ["Ä\xa0ÇÉÑÖÜáàâäں«çéèêëí…îïñó»ôö÷úùûü !\"#$٪&'()*+،-./۰۱۲۳۴۵۶۷۸۹:؛<=>؟❊ءآأؤإئابةتثجحخدذرز",
       "سشصضطظعغ[\\]^_ـفقكلمنهوىي\u064b\u064c\u064d\u064e\u064f\u0650\u0651\u0652پٹچەڤگڈڑ\x7b|",
       "\x7dژے"]]

end JourneyCost.Charset
