import JourneyCost.Charset.Basic

/-!
# Code pages of Windows

The code pages with the numbers 1250 to 1258, and the Thai one.
-/

namespace JourneyCost.Charset

/-- Code pages of Windows. -/
def windowsSets : List Charset :=
  [.ofChart "cp1250" ["1250", "windows_1250"] 128
      ["€�‚�„…†‡�‰Š‹ŚŤŽŹ�‘’“”•–—�™š›śťžź\xa0ˇ˘Ł¤Ą¦§¨©Ş«¬\xad®Ż°±˛ł´µ¶·¸ąş»Ľ˝ľżŔÁÂĂÄĹĆÇČÉĘËĚÍÎĎĐ",
       "ŃŇÓÔŐÖ×ŘŮÚŰÜÝŢßŕáâăäĺćçčéęëěíîďđńňóôőö÷řůúűüýţ˙"],
   .ofChart "cp1251" ["1251", "windows_1251"] 128
      ["ЂЃ‚ѓ„…†‡€‰Љ‹ЊЌЋЏђ‘’“”•–—�™љ›њќћџ\xa0ЎўЈ¤Ґ¦§Ё©Є«¬\xad®Ї°±Ііґµ¶·ё№є»јЅѕїАБВГДЕЖЗИЙКЛМНОПР",
       "СТУФХЦЧШЩЪЫЬЭЮЯабвгдежзийклмнопрстуфхцчшщъыьэюя"],
   .ofChart "cp1252" ["1252", "windows_1252"] 128
      ["€�‚ƒ„…†‡ˆ‰Š‹Œ�Ž��‘’“”•–—˜™š›œ�žŸ"],
   .ofChart "cp1253" ["1253", "windows_1253"] 128
      ["€�‚ƒ„…†‡�‰�‹�����‘’“”•–—�™�›����\xa0΅Ά£¤¥¦§¨©�«¬\xad®―°±²³΄µ¶·ΈΉΊ»Ό½ΎΏΐΑΒΓΔΕΖΗΘΙΚΛΜΝΞΟΠ",
       "Ρ�ΣΤΥΦΧΨΩΪΫάέήίΰαβγδεζηθικλμνξοπρςστυφχψωϊϋόύώ�"],
   .ofChart "cp1254" ["1254", "windows_1254"] 128
      ["€�‚ƒ„…†‡ˆ‰Š‹Œ����‘’“”•–—˜™š›œ��Ÿ\xa0¡¢£¤¥¦§¨©ª«¬\xad®¯°±²³´µ¶·¸¹º»¼½¾¿ÀÁÂÃÄÅÆÇÈÉÊËÌÍÎÏĞ",
       "ÑÒÓÔÕÖ×ØÙÚÛÜİŞßàáâãäåæçèéêëìíîïğñòóôõö÷øùúûüış"],
   .ofChart "cp1255" ["1255", "windows_1255"] 128
      ["€�‚ƒ„…†‡ˆ‰�‹�����‘’“”•–—˜™�›����\xa0¡¢£₪¥¦§¨©×«¬\xad®¯°±²³´µ¶·¸¹÷»¼½¾¿\u05b0\u05b1",
       "\u05b2\u05b3\u05b4\u05b5\u05b6\u05b7\u05b8\u05b9�\u05bb\u05bc\u05bd־\u05bf׀\u05c1\u05c2",
       "׃װױײ׳״�������אבגדהוזחטיךכלםמןנסעףפץצקרשת��\u200e\u200f�"],
   .ofChart "cp1256" ["1256", "windows_1256"] 128
      ["€پ‚ƒ„…†‡ˆ‰ٹ‹Œچژڈگ‘’“”•–—ک™ڑ›œ\u200c\u200dں\xa0،¢£¤¥¦§¨©ھ«¬\xad®¯°±²³´µ¶·¸¹؛»¼½¾؟ہءآأؤإئ",
       "ابةتثجحخدذرزسشصض×طظعغـفقكàلâمنهوçèéêëىيîï\u064b\u064c\u064d\u064eô\u064f\u0650÷\u0651ù",
       "\u0652ûü\u200e\u200fے"],
   .ofChart "cp1257" ["1257", "windows_1257"] 128
      ["€�‚�„…†‡�‰�‹�¨ˇ¸�‘’“”•–—�™�›�¯˛�\xa0�¢£¤�¦§Ø©Ŗ«¬\xad®Æ°±²³´µ¶·ø¹ŗ»¼½¾æĄĮĀĆÄÅĘĒČÉŹĖĢĶĪĻŠ",
       "ŃŅÓŌÕÖ×ŲŁŚŪÜŻŽßąįāćäåęēčéźėģķīļšńņóōõö÷ųłśūüżž˙"],
   .ofChart "cp1258" ["1258", "windows_1258"] 128
      ["€�‚ƒ„…†‡ˆ‰�‹Œ����‘’“”•–—˜™�›œ��Ÿ\xa0¡¢£¤¥¦§¨©ª«¬\xad®¯°±²³´µ¶·¸¹º»¼½¾¿ÀÁÂĂÄÅÆÇÈÉÊË",
       "\u0300ÍÎÏĐÑ\u0309ÓÔƠÖ×ØÙÚÛÜƯ\u0303ßàáâăäåæçèéêë\u0301íîïđñ\u0323óôơö÷øùúûüư₫"],
   .ofChart "cp874" [] 128
      ["€����…�����������‘’“”•–—��������\xa0กขฃคฅฆงจฉชซฌญฎฏฐฑฒณดตถทธนบปผฝพฟภมยรฤลฦวศษสหฬอฮฯะ",
       "\u0e31าำ\u0e34\u0e35\u0e36\u0e37\u0e38\u0e39\u0e3a����฿เแโใไๅๆ\u0e47\u0e48\u0e49\u0e4a",
       "\u0e4b\u0e4c\u0e4d\u0e4e๏๐๑๒๓๔๕๖๗๘๙๚๛����"]]

end JourneyCost.Charset
