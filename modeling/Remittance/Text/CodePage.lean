/-!
# Code pages

Character sets of at most 256 characters, one for each octet.
-/

set_option autoImplicit false

namespace Remittance

/-- A page of 256 characters: its names, and the characters of the octets below 128 and of those
from 128 on. U+FFFD stands where there is none. -/
structure CodePage where
  names : List String
  lower : String
  upper : String

namespace CodePage

/-- The characters of ASCII. -/
def ascii : String := String.ofList ((List.range 128).map Char.ofNat)

/-- Pages of a desktop system and its office machines. -/
def windowsPages : List CodePage := [
  ⟨["cp1250", "1250", "windows_1250"],
    ascii,
    "€�‚�„…†‡�‰Š‹ŚŤŽŹ�‘’“”•–—�™š›śťžź\xA0ˇ˘Ł¤Ą¦§¨©Ş«¬\xAD®Ż°±˛ł´µ¶·¸ąş»Ľ˝ľżŔÁÂĂÄĹĆÇČÉĘËĚÍÎĎĐŃŇÓÔ" ++
    "ŐÖ×ŘŮÚŰÜÝŢßŕáâăäĺćçčéęëěíîďđńňóôőö÷řůúűüýţ˙"⟩,
  ⟨["cp1251", "1251", "windows_1251"],
    ascii,
    "ЂЃ‚ѓ„…†‡€‰Љ‹ЊЌЋЏђ‘’“”•–—�™љ›њќћџ\xA0ЎўЈ¤Ґ¦§Ё©Є«¬\xAD®Ї°±Ііґµ¶·ё№є»јЅѕїАБВГДЕЖЗИЙКЛМНОПРСТУФ" ++
    "ХЦЧШЩЪЫЬЭЮЯабвгдежзийклмнопрстуфхцчшщъыьэюя"⟩,
  ⟨["cp1252", "1252", "windows_1252"],
    ascii,
    "€�‚ƒ„…†‡ˆ‰Š‹Œ�Ž��‘’“”•–—˜™š›œ�žŸ\xA0¡¢£¤¥¦§¨©ª«¬\xAD®¯°±²³´µ¶·¸¹º»¼½¾¿ÀÁÂÃÄÅÆÇÈÉÊËÌÍÎÏÐÑÒÓÔ" ++
    "ÕÖ×ØÙÚÛÜÝÞßàáâãäåæçèéêëìíîïðñòóôõö÷øùúûüýþÿ"⟩,
  ⟨["cp1253", "1253", "windows_1253"],
    ascii,
    "€�‚ƒ„…†‡�‰�‹�����‘’“”•–—�™�›����\xA0΅Ά£¤¥¦§¨©�«¬\xAD®―°±²³΄µ¶·ΈΉΊ»Ό½ΎΏΐΑΒΓΔΕΖΗΘΙΚΛΜΝΞΟΠΡ�ΣΤ" ++
    "ΥΦΧΨΩΪΫάέήίΰαβγδεζηθικλμνξοπρςστυφχψωϊϋόύώ�"⟩,
  ⟨["cp1254", "1254", "windows_1254"],
    ascii,
    "€�‚ƒ„…†‡ˆ‰Š‹Œ����‘’“”•–—˜™š›œ��Ÿ\xA0¡¢£¤¥¦§¨©ª«¬\xAD®¯°±²³´µ¶·¸¹º»¼½¾¿ÀÁÂÃÄÅÆÇÈÉÊËÌÍÎÏĞÑÒÓÔ" ++
    "ÕÖ×ØÙÚÛÜİŞßàáâãäåæçèéêëìíîïğñòóôõö÷øùúûüışÿ"⟩,
  ⟨["cp1255", "1255", "windows_1255"],
    ascii,
    "€�‚ƒ„…†‡ˆ‰�‹�����‘’“”•–—˜™�›����\xA0¡¢£₪¥¦§¨©×«¬\xAD®¯°±²³´µ¶·¸¹÷»¼½¾¿\u05B0\u05B1\u05B2" ++
    "\u05B3\u05B4\u05B5\u05B6\u05B7\u05B8\u05B9�\u05BB\u05BC\u05BD\u05BE\u05BF\u05C0\u05C1\u05C2" ++
    "\u05C3\u05F0\u05F1\u05F2\u05F3\u05F4�������\u05D0\u05D1\u05D2\u05D3\u05D4\u05D5\u05D6\u05D7" ++
    "\u05D8\u05D9\u05DA\u05DB\u05DC\u05DD\u05DE\u05DF\u05E0\u05E1\u05E2\u05E3\u05E4\u05E5\u05E6" ++
    "\u05E7\u05E8\u05E9\u05EA��\u200E\u200F�"⟩,
  ⟨["cp1256", "1256", "windows_1256"],
    ascii,
    "€\u067E‚ƒ„…†‡ˆ‰\u0679‹Œ\u0686\u0698\u0688\u06AF‘’“”•–—\u06A9™\u0691›œ\u200C\u200D\u06BA\xA0" ++
    "،¢£¤¥¦§¨©\u06BE«¬\xAD®¯°±²³´µ¶·¸¹\u061B»¼½¾\u061F\u06C1\u0621\u0622\u0623\u0624\u0625\u0626" ++
    "\u0627\u0628\u0629\u062A\u062B\u062C\u062D\u062E\u062F\u0630\u0631\u0632\u0633\u0634\u0635" ++
    "\u0636×\u0637\u0638\u0639\u063A\u0640\u0641\u0642\u0643à\u0644â\u0645\u0646\u0647\u0648çèéê" ++
    "ë\u0649\u064Aîï\u064B\u064C\u064D\u064Eô\u064F\u0650÷\u0651ù\u0652ûü\u200E\u200F\u06D2"⟩,
  ⟨["cp1257", "1257", "windows_1257"],
    ascii,
    "€�‚�„…†‡�‰�‹�¨ˇ¸�‘’“”•–—�™�›�¯˛�\xA0�¢£¤�¦§Ø©Ŗ«¬\xAD®Æ°±²³´µ¶·ø¹ŗ»¼½¾æĄĮĀĆÄÅĘĒČÉŹĖĢĶĪĻŠŃŅÓŌ" ++
    "ÕÖ×ŲŁŚŪÜŻŽßąįāćäåęēčéźėģķīļšńņóōõö÷ųłśūüżž˙"⟩,
  ⟨["cp1258", "1258", "windows_1258"],
    ascii,
    "€�‚ƒ„…†‡ˆ‰�‹Œ����‘’“”•–—˜™�›œ��Ÿ\xA0¡¢£¤¥¦§¨©ª«¬\xAD®¯°±²³´µ¶·¸¹º»¼½¾¿ÀÁÂĂÄÅÆÇÈÉÊË\u0300ÍÎÏ" ++
    "ĐÑ\u0309ÓÔƠÖ×ØÙÚÛÜƯ\u0303ßàáâăäåæçèéêë\u0301íîïđñ\u0323óôơö÷øùúûüư₫ÿ"⟩,
  ⟨["cp874"],
    ascii,
    "€����…�����������‘’“”•–—��������\xA0กขฃคฅฆงจฉชซฌญฎฏฐฑฒณดตถทธนบปผฝพฟภมยรฤลฦวศษสหฬอฮฯะ\u0E31า" ++
    "ำ\u0E34\u0E35\u0E36\u0E37\u0E38\u0E39\u0E3A����฿เแโใไๅๆ\u0E47\u0E48\u0E49\u0E4A\u0E4B\u0E4C" ++
    "\u0E4D\u0E4E๏๐๑๒๓๔๕๖๗๘๙๚๛����"⟩]

/-- Pages of ISO 8859. -/
def isoPages : List CodePage := [
  ⟨["iso8859_1"],
    ascii,
    "\x80\x81\x82\x83\x84\x85\x86\x87\x88\x89\x8A\x8B\x8C\x8D\x8E\x8F\x90\x91\x92\x93\x94\x95" ++
    "\x96\x97\x98\x99\x9A\x9B\x9C\x9D\x9E\x9F\xA0¡¢£¤¥¦§¨©ª«¬\xAD®¯°±²³´µ¶·¸¹º»¼½¾¿ÀÁÂÃÄÅÆÇÈÉÊËÌ" ++
    "ÍÎÏÐÑÒÓÔÕÖ×ØÙÚÛÜÝÞßàáâãäåæçèéêëìíîïðñòóôõö÷øùúûüýþÿ"⟩,
  ⟨["iso8859_10", "csisolatin6", "iso_8859_10", "iso_8859_10_1992", "iso_ir_157", "l6", "latin6"],
    ascii,
    "\x80\x81\x82\x83\x84\x85\x86\x87\x88\x89\x8A\x8B\x8C\x8D\x8E\x8F\x90\x91\x92\x93\x94\x95" ++
    "\x96\x97\x98\x99\x9A\x9B\x9C\x9D\x9E\x9F\xA0ĄĒĢĪĨĶ§ĻĐŠŦŽ\xADŪŊ°ąēģīĩķ·ļđšŧž―ūŋĀÁÂÃÄÅÆĮČÉĘËĖ" ++
    "ÍÎÏÐŅŌÓÔÕÖŨØŲÚÛÜÝÞßāáâãäåæįčéęëėíîïðņōóôõöũøųúûüýþĸ"⟩,
  ⟨["iso8859_11", "iso_8859_11", "iso_8859_11_2001", "thai"],
    ascii,
    "\x80\x81\x82\x83\x84\x85\x86\x87\x88\x89\x8A\x8B\x8C\x8D\x8E\x8F\x90\x91\x92\x93\x94\x95" ++
    "\x96\x97\x98\x99\x9A\x9B\x9C\x9D\x9E\x9F\xA0กขฃคฅฆงจฉชซฌญฎฏฐฑฒณดตถทธนบปผฝพฟภมยรฤลฦวศษสหฬอฮฯ" ++
    "ะ\u0E31าำ\u0E34\u0E35\u0E36\u0E37\u0E38\u0E39\u0E3A����฿เแโใไๅๆ\u0E47\u0E48\u0E49\u0E4A" ++
    "\u0E4B\u0E4C\u0E4D\u0E4E๏๐๑๒๓๔๕๖๗๘๙๚๛����"⟩,
  ⟨["iso8859_13", "iso_8859_13", "l7", "latin7"],
    ascii,
    "\x80\x81\x82\x83\x84\x85\x86\x87\x88\x89\x8A\x8B\x8C\x8D\x8E\x8F\x90\x91\x92\x93\x94\x95" ++
    "\x96\x97\x98\x99\x9A\x9B\x9C\x9D\x9E\x9F\xA0”¢£¤„¦§Ø©Ŗ«¬\xAD®Æ°±²³“µ¶·ø¹ŗ»¼½¾æĄĮĀĆÄÅĘĒČÉŹĖĢ" ++
    "ĶĪĻŠŃŅÓŌÕÖ×ŲŁŚŪÜŻŽßąįāćäåęēčéźėģķīļšńņóōõö÷ųłśūüżž’"⟩,
  ⟨["iso8859_14", "iso_8859_14", "iso_8859_14_1998", "iso_celtic", "iso_ir_199", "l8", "latin8"],
    ascii,
    "\x80\x81\x82\x83\x84\x85\x86\x87\x88\x89\x8A\x8B\x8C\x8D\x8E\x8F\x90\x91\x92\x93\x94\x95" ++
    "\x96\x97\x98\x99\x9A\x9B\x9C\x9D\x9E\x9F\xA0Ḃḃ£ĊċḊ§Ẁ©ẂḋỲ\xAD®ŸḞḟĠġṀṁ¶ṖẁṗẃṠỳẄẅṡÀÁÂÃÄÅÆÇÈÉÊËÌ" ++
    "ÍÎÏŴÑÒÓÔÕÖṪØÙÚÛÜÝŶßàáâãäåæçèéêëìíîïŵñòóôõöṫøùúûüýŷÿ"⟩,
  ⟨["iso8859_15", "iso_8859_15", "l9", "latin9"],
    ascii,
    "\x80\x81\x82\x83\x84\x85\x86\x87\x88\x89\x8A\x8B\x8C\x8D\x8E\x8F\x90\x91\x92\x93\x94\x95" ++
    "\x96\x97\x98\x99\x9A\x9B\x9C\x9D\x9E\x9F\xA0¡¢£€¥Š§š©ª«¬\xAD®¯°±²³Žµ¶·ž¹º»ŒœŸ¿ÀÁÂÃÄÅÆÇÈÉÊËÌ" ++
    "ÍÎÏÐÑÒÓÔÕÖ×ØÙÚÛÜÝÞßàáâãäåæçèéêëìíîïðñòóôõö÷øùúûüýþÿ"⟩,
  ⟨["iso8859_16", "iso_8859_16", "iso_8859_16_2001", "iso_ir_226", "l10", "latin10"],
    ascii,
    "\x80\x81\x82\x83\x84\x85\x86\x87\x88\x89\x8A\x8B\x8C\x8D\x8E\x8F\x90\x91\x92\x93\x94\x95" ++
    "\x96\x97\x98\x99\x9A\x9B\x9C\x9D\x9E\x9F\xA0ĄąŁ€„Š§š©Ș«Ź\xADźŻ°±ČłŽ”¶·žčș»ŒœŸżÀÁÂĂÄĆÆÇÈÉÊËÌ" ++
    "ÍÎÏĐŃÒÓÔŐÖŚŰÙÚÛÜĘȚßàáâăäćæçèéêëìíîïđńòóôőöśűùúûüęțÿ"⟩,
  ⟨["iso8859_2", "csisolatin2", "iso_8859_2", "iso_8859_2_1987", "iso_ir_101", "l2", "latin2"],
    ascii,
    "\x80\x81\x82\x83\x84\x85\x86\x87\x88\x89\x8A\x8B\x8C\x8D\x8E\x8F\x90\x91\x92\x93\x94\x95" ++
    "\x96\x97\x98\x99\x9A\x9B\x9C\x9D\x9E\x9F\xA0Ą˘Ł¤ĽŚ§¨ŠŞŤŹ\xADŽŻ°ą˛ł´ľśˇ¸šşťź˝žżŔÁÂĂÄĹĆÇČÉĘËĚ" ++
    "ÍÎĎĐŃŇÓÔŐÖ×ŘŮÚŰÜÝŢßŕáâăäĺćçčéęëěíîďđńňóôőö÷řůúűüýţ˙"⟩,
  ⟨["iso8859_3", "csisolatin3", "iso_8859_3", "iso_8859_3_1988", "iso_ir_109", "l3", "latin3"],
    ascii,
    "\x80\x81\x82\x83\x84\x85\x86\x87\x88\x89\x8A\x8B\x8C\x8D\x8E\x8F\x90\x91\x92\x93\x94\x95" ++
    "\x96\x97\x98\x99\x9A\x9B\x9C\x9D\x9E\x9F\xA0Ħ˘£¤�Ĥ§¨İŞĞĴ\xAD�Ż°ħ²³´µĥ·¸ışğĵ½�żÀÁÂ�ÄĊĈÇÈÉÊËÌ" ++
    "ÍÎÏ�ÑÒÓÔĠÖ×ĜÙÚÛÜŬŜßàáâ�äċĉçèéêëìíîï�ñòóôġö÷ĝùúûüŭŝ˙"⟩,
  ⟨["iso8859_4", "csisolatin4", "iso_8859_4", "iso_8859_4_1988", "iso_ir_110", "l4", "latin4"],
    ascii,
    "\x80\x81\x82\x83\x84\x85\x86\x87\x88\x89\x8A\x8B\x8C\x8D\x8E\x8F\x90\x91\x92\x93\x94\x95" ++
    "\x96\x97\x98\x99\x9A\x9B\x9C\x9D\x9E\x9F\xA0ĄĸŖ¤ĨĻ§¨ŠĒĢŦ\xADŽ¯°ą˛ŗ´ĩļˇ¸šēģŧŊžŋĀÁÂÃÄÅÆĮČÉĘËĖ" ++
    "ÍÎĪĐŅŌĶÔÕÖ×ØŲÚÛÜŨŪßāáâãäåæįčéęëėíîīđņōķôõö÷øųúûüũū˙"⟩,
  ⟨["iso8859_5", "csisolatincyrillic", "cyrillic", "iso_8859_5", "iso_8859_5_1988", "iso_ir_144"],
    ascii,
    "\x80\x81\x82\x83\x84\x85\x86\x87\x88\x89\x8A\x8B\x8C\x8D\x8E\x8F\x90\x91\x92\x93\x94\x95" ++
    "\x96\x97\x98\x99\x9A\x9B\x9C\x9D\x9E\x9F\xA0ЁЂЃЄЅІЇЈЉЊЋЌ\xADЎЏАБВГДЕЖЗИЙКЛМНОПРСТУФХЦЧШЩЪЫЬ" ++
    "ЭЮЯабвгдежзийклмнопрстуфхцчшщъыьэюя№ёђѓєѕіїјљњћќ§ўџ"⟩,
  ⟨["iso8859_6", "arabic", "asmo_708", "csisolatinarabic", "ecma_114", "iso_8859_6",
    "iso_8859_6_1987", "iso_ir_127"],
    ascii,
    "\x80\x81\x82\x83\x84\x85\x86\x87\x88\x89\x8A\x8B\x8C\x8D\x8E\x8F\x90\x91\x92\x93\x94\x95" ++
    "\x96\x97\x98\x99\x9A\x9B\x9C\x9D\x9E\x9F\xA0���¤�������،\xAD�������������\u061B���\u061F�" ++
    "\u0621\u0622\u0623\u0624\u0625\u0626\u0627\u0628\u0629\u062A\u062B\u062C\u062D\u062E\u062F" ++
    "\u0630\u0631\u0632\u0633\u0634\u0635\u0636\u0637\u0638\u0639\u063A�����\u0640\u0641\u0642" ++
    "\u0643\u0644\u0645\u0646\u0647\u0648\u0649\u064A\u064B\u064C\u064D\u064E\u064F\u0650\u0651" ++
    "\u0652�������������"⟩,
  ⟨["iso8859_7", "csisolatingreek", "ecma_118", "elot_928", "greek", "greek8", "iso_8859_7",
    "iso_8859_7_1987", "iso_ir_126"],
    ascii,
    "\x80\x81\x82\x83\x84\x85\x86\x87\x88\x89\x8A\x8B\x8C\x8D\x8E\x8F\x90\x91\x92\x93\x94\x95" ++
    "\x96\x97\x98\x99\x9A\x9B\x9C\x9D\x9E\x9F\xA0‘’£€₯¦§¨©ͺ«¬\xAD�―°±²³΄΅Ά·ΈΉΊ»Ό½ΎΏΐΑΒΓΔΕΖΗΘΙΚΛΜ" ++
    "ΝΞΟΠΡ�ΣΤΥΦΧΨΩΪΫάέήίΰαβγδεζηθικλμνξοπρςστυφχψωϊϋόύώ�"⟩,
  ⟨["iso8859_8", "csisolatinhebrew", "hebrew", "iso_8859_8", "iso_8859_8_1988", "iso_ir_138"],
    ascii,
    "\x80\x81\x82\x83\x84\x85\x86\x87\x88\x89\x8A\x8B\x8C\x8D\x8E\x8F\x90\x91\x92\x93\x94\x95" ++
    "\x96\x97\x98\x99\x9A\x9B\x9C\x9D\x9E\x9F\xA0�¢£¤¥¦§¨©×«¬\xAD®¯°±²³´µ¶·¸¹÷»¼½¾��������������" ++
    "������������������‗\u05D0\u05D1\u05D2\u05D3\u05D4\u05D5\u05D6\u05D7\u05D8\u05D9\u05DA\u05DB" ++
    "\u05DC\u05DD\u05DE\u05DF\u05E0\u05E1\u05E2\u05E3\u05E4\u05E5\u05E6\u05E7\u05E8\u05E9\u05EA�" ++
    "�\u200E\u200F�"⟩,
  ⟨["iso8859_9", "csisolatin5", "iso_8859_9", "iso_8859_9_1989", "iso_ir_148", "l5", "latin5"],
    ascii,
    "\x80\x81\x82\x83\x84\x85\x86\x87\x88\x89\x8A\x8B\x8C\x8D\x8E\x8F\x90\x91\x92\x93\x94\x95" ++
    "\x96\x97\x98\x99\x9A\x9B\x9C\x9D\x9E\x9F\xA0¡¢£¤¥¦§¨©ª«¬\xAD®¯°±²³´µ¶·¸¹º»¼½¾¿ÀÁÂÃÄÅÆÇÈÉÊËÌ" ++
    "ÍÎÏĞÑÒÓÔÕÖ×ØÙÚÛÜİŞßàáâãäåæçèéêëìíîïğñòóôõö÷øùúûüışÿ"⟩]

/-- Pages of consoles. -/
def consolePages : List CodePage := [
  ⟨["cp1006"],
    ascii,
    "\x80\x81\x82\x83\x84\x85\x86\x87\x88\x89\x8A\x8B\x8C\x8D\x8E\x8F\x90\x91\x92\x93\x94\x95" ++
    "\x96\x97\x98\x99\x9A\x9B\x9C\x9D\x9E\x9F\xA0۰۱۲۳۴۵۶۷۸۹،\u061B\xAD\u061F\uFE81\uFE8D\uFE8E" ++
    "\uFE8E\uFE8F\uFE91\uFB56\uFB58\uFE93\uFE95\uFE97\uFB66\uFB68\uFE99\uFE9B\uFE9D\uFE9F\uFB7A" ++
    "\uFB7C\uFEA1\uFEA3\uFEA5\uFEA7\uFEA9\uFB84\uFEAB\uFEAD\uFB8C\uFEAF\uFB8A\uFEB1\uFEB3\uFEB5" ++
    "\uFEB7\uFEB9\uFEBB\uFEBD\uFEBF\uFEC1\uFEC5\uFEC9\uFECA\uFECB\uFECC\uFECD\uFECE\uFECF\uFED0" ++
    "\uFED1\uFED3\uFED5\uFED7\uFED9\uFEDB\uFB92\uFB94\uFEDD\uFEDF\uFEE0\uFEE1\uFEE3\uFB9E\uFEE5" ++
    "\uFEE7\uFE85\uFEED\uFBA6\uFBA8\uFBA9\uFBAA\uFE80\uFE89\uFE8A\uFE8B\uFEF1\uFEF2\uFEF3\uFBB0" ++
    "\uFBAE\uFE7C\uFE7D"⟩,
  ⟨["cp1125", "1125", "cp866u", "ibm1125", "ruscii"],
    ascii,
    "АБВГДЕЖЗИЙКЛМНОПРСТУФХЦЧШЩЪЫЬЭЮЯабвгдежзийклмноп░▒▓│┤╡╢╖╕╣║╗╝╜╛┐└┴┬├─┼╞╟╚╔╩╦╠═╬╧╨╤╥╙╘╒╓╫╪┘┌" ++
    "█▄▌▐▀рстуфхцчшщъыьэюяЁёҐґЄєІіЇї·√№¤■\xA0"⟩,
  ⟨["cp437", "437", "cspc8codepage437", "ibm437"],
    ascii,
    "ÇüéâäàåçêëèïîìÄÅÉæÆôöòûùÿÖÜ¢£¥₧ƒáíóúñÑªº¿⌐¬½¼¡«»░▒▓│┤╡╢╖╕╣║╗╝╜╛┐└┴┬├─┼╞╟╚╔╩╦╠═╬╧╨╤╥╙╘╒╓╫╪┘┌" ++
    "█▄▌▐▀αßΓπΣσµτΦΘΩδ∞φε∩≡±≥≤⌠⌡÷≈°∙·√ⁿ²■\xA0"⟩,
  ⟨["cp720"],
    ascii,
    "\x80\x81éâ\x84à\x86çêëèïî\x8D\x8E\x8F\x90\u0651\u0652ô¤\u0640ûù\u0621\u0622\u0623\u0624£" ++
    "\u0625\u0626\u0627\u0628\u0629\u062A\u062B\u062C\u062D\u062E\u062F\u0630\u0631\u0632\u0633" ++
    "\u0634\u0635«»░▒▓│┤╡╢╖╕╣║╗╝╜╛┐└┴┬├─┼╞╟╚╔╩╦╠═╬╧╨╤╥╙╘╒╓╫╪┘┌█▄▌▐▀\u0636\u0637\u0638\u0639" ++
    "\u063A\u0641µ\u0642\u0643\u0644\u0645\u0646\u0647\u0648\u0649\u064A≡\u064B\u064C\u064D" ++
    "\u064E\u064F\u0650≈°∙·√ⁿ²■\xA0"⟩,
  ⟨["cp737"],
    ascii,
    "ΑΒΓΔΕΖΗΘΙΚΛΜΝΞΟΠΡΣΤΥΦΧΨΩαβγδεζηθικλμνξοπρσςτυφχψ░▒▓│┤╡╢╖╕╣║╗╝╜╛┐└┴┬├─┼╞╟╚╔╩╦╠═╬╧╨╤╥╙╘╒╓╫╪┘┌" ++
    "█▄▌▐▀ωάέήϊίόύϋώΆΈΉΊΌΎΏ±≥≤ΪΫ÷≈°∙·√ⁿ²■\xA0"⟩,
  ⟨["cp775", "775", "cspc775baltic", "ibm775"],
    ascii,
    "ĆüéāäģåćłēŖŗīŹÄÅÉæÆōöĢ¢ŚśÖÜø£Ø×¤ĀĪóŻżź”¦©®¬½¼Ł«»░▒▓│┤ĄČĘĖ╣║╗╝ĮŠ┐└┴┬├─┼ŲŪ╚╔╩╦╠═╬Žąčęėįšųūž┘┌" ++
    "█▄▌▐▀ÓßŌŃõÕµńĶķĻļņĒŅ’\xAD±“¾¶§÷„°∙·¹³²■\xA0"⟩,
  ⟨["cp850", "850", "cspc850multilingual", "ibm850"],
    ascii,
    "ÇüéâäàåçêëèïîìÄÅÉæÆôöòûùÿÖÜø£Ø×ƒáíóúñÑªº¿®¬½¼¡«»░▒▓│┤ÁÂÀ©╣║╗╝¢¥┐└┴┬├─┼ãÃ╚╔╩╦╠═╬¤ðÐÊËÈıÍÎÏ┘┌" ++
    "█▄¦Ì▀ÓßÔÒõÕµþÞÚÛÙýÝ¯´\xAD±‗¾¶§÷¸°¨·¹³²■\xA0"⟩,
  ⟨["cp852", "852", "cspcp852", "ibm852"],
    ascii,
    "ÇüéâäůćçłëŐőîŹÄĆÉĹĺôöĽľŚśÖÜŤťŁ×čáíóúĄąŽžĘę¬źČş«»░▒▓│┤ÁÂĚŞ╣║╗╝Żż┐└┴┬├─┼Ăă╚╔╩╦╠═╬¤đĐĎËďŇÍÎě┘┌" ++
    "█▄ŢŮ▀ÓßÔŃńňŠšŔÚŕŰýÝţ´\xAD˝˛ˇ˘§÷¸°¨˙űŘř■\xA0"⟩,
  ⟨["cp855", "855", "csibm855", "ibm855"],
    ascii,
    "ђЂѓЃёЁєЄѕЅіІїЇјЈљЉњЊћЋќЌўЎџЏюЮъЪаАбБцЦдДеЕфФгГ«»░▒▓│┤хХиИ╣║╗╝йЙ┐└┴┬├─┼кК╚╔╩╦╠═╬¤лЛмМнНоОп┘┌" ++
    "█▄Пя▀ЯрРсСтТуУжЖвВьЬ№\xADыЫзЗшШэЭщЩчЧ§■\xA0"⟩,
  ⟨["cp856"],
    ascii,
    "\u05D0\u05D1\u05D2\u05D3\u05D4\u05D5\u05D6\u05D7\u05D8\u05D9\u05DA\u05DB\u05DC\u05DD\u05DE" ++
    "\u05DF\u05E0\u05E1\u05E2\u05E3\u05E4\u05E5\u05E6\u05E7\u05E8\u05E9\u05EA�£�×����������®¬½¼�" ++
    "«»░▒▓│┤���©╣║╗╝¢¥┐└┴┬├─┼��╚╔╩╦╠═╬¤���������┘┌█▄¦�▀������µ�������¯´\xAD±‗¾¶§÷¸°¨·¹³²■\xA0"⟩,
  ⟨["cp857", "857", "csibm857", "ibm857"],
    ascii,
    "ÇüéâäàåçêëèïîıÄÅÉæÆôöòûùİÖÜø£ØŞşáíóúñÑĞğ¿®¬½¼¡«»░▒▓│┤ÁÂÀ©╣║╗╝¢¥┐└┴┬├─┼ãÃ╚╔╩╦╠═╬¤ºªÊËÈ�ÍÎÏ┘┌" ++
    "█▄¦Ì▀ÓßÔÒõÕµ�×ÚÛÙìÿ¯´\xAD±�¾¶§÷¸°¨·¹³²■\xA0"⟩,
  ⟨["cp858", "858", "csibm858", "ibm858"],
    ascii,
    "ÇüéâäàåçêëèïîìÄÅÉæÆôöòûùÿÖÜø£Ø×ƒáíóúñÑªº¿®¬½¼¡«»░▒▓│┤ÁÂÀ©╣║╗╝¢¥┐└┴┬├─┼ãÃ╚╔╩╦╠═╬¤ðÐÊËÈ€ÍÎÏ┘┌" ++
    "█▄¦Ì▀ÓßÔÒõÕµþÞÚÛÙýÝ¯´\xAD±‗¾¶§÷¸°¨·¹³²■\xA0"⟩,
  ⟨["cp860", "860", "csibm860", "ibm860"],
    ascii,
    "ÇüéâãàÁçêÊèÍÔìÃÂÉÀÈôõòÚùÌÕÜ¢£Ù₧ÓáíóúñÑªº¿Ò¬½¼¡«»░▒▓│┤╡╢╖╕╣║╗╝╜╛┐└┴┬├─┼╞╟╚╔╩╦╠═╬╧╨╤╥╙╘╒╓╫╪┘┌" ++
    "█▄▌▐▀αßΓπΣσµτΦΘΩδ∞φε∩≡±≥≤⌠⌡÷≈°∙·√ⁿ²■\xA0"⟩,
  ⟨["cp861", "861", "cp_is", "csibm861", "ibm861"],
    ascii,
    "ÇüéâäàåçêëèÐðÞÄÅÉæÆôöþûÝýÖÜø£Ø₧ƒáíóúÁÍÓÚ¿⌐¬½¼¡«»░▒▓│┤╡╢╖╕╣║╗╝╜╛┐└┴┬├─┼╞╟╚╔╩╦╠═╬╧╨╤╥╙╘╒╓╫╪┘┌" ++
    "█▄▌▐▀αßΓπΣσµτΦΘΩδ∞φε∩≡±≥≤⌠⌡÷≈°∙·√ⁿ²■\xA0"⟩,
  ⟨["cp862", "862", "cspc862latinhebrew", "ibm862"],
    ascii,
    "\u05D0\u05D1\u05D2\u05D3\u05D4\u05D5\u05D6\u05D7\u05D8\u05D9\u05DA\u05DB\u05DC\u05DD\u05DE" ++
    "\u05DF\u05E0\u05E1\u05E2\u05E3\u05E4\u05E5\u05E6\u05E7\u05E8\u05E9\u05EA¢£¥₧ƒáíóúñÑªº¿⌐¬½¼¡" ++
    "«»░▒▓│┤╡╢╖╕╣║╗╝╜╛┐└┴┬├─┼╞╟╚╔╩╦╠═╬╧╨╤╥╙╘╒╓╫╪┘┌█▄▌▐▀αßΓπΣσµτΦΘΩδ∞φε∩≡±≥≤⌠⌡÷≈°∙·√ⁿ²■\xA0"⟩,
  ⟨["cp863", "863", "csibm863", "ibm863"],
    ascii,
    "ÇüéâÂà¶çêëèïî‗À§ÉÈÊôËÏûù¤ÔÜ¢£ÙÛƒ¦´óú¨¸³¯Î⌐¬½¼¾«»░▒▓│┤╡╢╖╕╣║╗╝╜╛┐└┴┬├─┼╞╟╚╔╩╦╠═╬╧╨╤╥╙╘╒╓╫╪┘┌" ++
    "█▄▌▐▀αßΓπΣσµτΦΘΩδ∞φε∩≡±≥≤⌠⌡÷≈°∙·√ⁿ²■\xA0"⟩,
  ⟨["cp865", "865", "csibm865", "ibm865"],
    ascii,
    "ÇüéâäàåçêëèïîìÄÅÉæÆôöòûùÿÖÜø£Ø₧ƒáíóúñÑªº¿⌐¬½¼¡«¤░▒▓│┤╡╢╖╕╣║╗╝╜╛┐└┴┬├─┼╞╟╚╔╩╦╠═╬╧╨╤╥╙╘╒╓╫╪┘┌" ++
    "█▄▌▐▀αßΓπΣσµτΦΘΩδ∞φε∩≡±≥≤⌠⌡÷≈°∙·√ⁿ²■\xA0"⟩,
  ⟨["cp866", "866", "csibm866", "ibm866"],
    ascii,
    "АБВГДЕЖЗИЙКЛМНОПРСТУФХЦЧШЩЪЫЬЭЮЯабвгдежзийклмноп░▒▓│┤╡╢╖╕╣║╗╝╜╛┐└┴┬├─┼╞╟╚╔╩╦╠═╬╧╨╤╥╙╘╒╓╫╪┘┌" ++
    "█▄▌▐▀рстуфхцчшщъыьэюяЁёЄєЇїЎў°∙·√№¤■\xA0"⟩,
  ⟨["cp869", "869", "cp_gr", "csibm869", "ibm869"],
    ascii,
    "������Ά�·¬¦‘’Έ―ΉΊΪΌ��ΎΫ©Ώ²³ά£έήίϊΐόύΑΒΓΔΕΖΗ½ΘΙ«»░▒▓│┤ΚΛΜΝ╣║╗╝ΞΟ┐└┴┬├─┼ΠΡ╚╔╩╦╠═╬ΣΤΥΦΧΨΩαβγ┘┌" ++
    "█▄δε▀ζηθικλμνξοπρσςτ΄\xAD±υφχ§ψ΅°¨ωϋΰώ■\xA0"⟩]

/-- Pages of a desktop system with its own order of letters. -/
def macPages : List CodePage := [
  ⟨["mac_arabic"],
    ascii,
    "Ä\xA0ÇÉÑÖÜáàâä\u06BA«çéèêëí…îïñó»ôö÷úùûü\x20!\x22#$٪&\x27()*+،-./\u0660\u0661\u0662\u0663" ++
    "\u0664\u0665\u0666\u0667\u0668\u0669:\u061B<=>\u061F❊\u0621\u0622\u0623\u0624\u0625\u0626" ++
    "\u0627\u0628\u0629\u062A\u062B\u062C\u062D\u062E\u062F\u0630\u0631\u0632\u0633\u0634\u0635" ++
    "\u0636\u0637\u0638\u0639\u063A[\x5C]^_\u0640\u0641\u0642\u0643\u0644\u0645\u0646\u0647" ++
    "\u0648\u0649\u064A\u064B\u064C\u064D\u064E\u064F\u0650\u0651\u0652\u067E\u0679\u0686\u06D5" ++
    "\u06A4\u06AF\u0688\u0691\x7B|\x7D\u0698\u06D2"⟩,
  ⟨["mac_croatian"],
    ascii,
    "ÄÅÇÉÑÖÜáàâäãåçéèêëíìîïñóòôöõúùûü†°¢£§•¶ß®Š™´¨≠ŽØ∞±≤≥∆µ∂∑∏š∫ªºΩžø¿¡¬√ƒ≈Ć«Č…\xA0ÀÃÕŒœĐ—“”‘’÷◊" ++
    "\uF8FF©⁄€‹›Æ»–·‚„‰ÂćÁčÈÍÎÏÌÓÔđÒÚÛÙıˆ˜¯πË˚¸Êæˇ"⟩,
  ⟨["mac_cyrillic", "maccyrillic"],
    ascii,
    "АБВГДЕЖЗИЙКЛМНОПРСТУФХЦЧШЩЪЫЬЭЮЯ†°Ґ£§•¶І®©™Ђђ≠Ѓѓ∞±≤≥іµґЈЄєЇїЉљЊњјЅ¬√ƒ≈∆«»…\xA0ЋћЌќѕ–—“”‘’÷„" ++
    "ЎўЏџ№Ёёяабвгдежзийклмнопрстуфхцчшщъыьэю€"⟩,
  ⟨["mac_farsi"],
    ascii,
    "Ä\xA0ÇÉÑÖÜáàâä\u06BA«çéèêëí…îïñó»ôö÷úùûü\x20!\x22#$٪&\x27()*+،-./۰۱۲۳۴۵۶۷۸۹:\u061B<=>\u061F" ++
    "❊\u0621\u0622\u0623\u0624\u0625\u0626\u0627\u0628\u0629\u062A\u062B\u062C\u062D\u062E\u062F" ++
    "\u0630\u0631\u0632\u0633\u0634\u0635\u0636\u0637\u0638\u0639\u063A[\x5C]^_\u0640\u0641" ++
    "\u0642\u0643\u0644\u0645\u0646\u0647\u0648\u0649\u064A\u064B\u064C\u064D\u064E\u064F\u0650" ++
    "\u0651\u0652\u067E\u0679\u0686\u06D5\u06A4\u06AF\u0688\u0691\x7B|\x7D\u0698\u06D2"⟩,
  ⟨["mac_greek", "macgreek"],
    ascii,
    "Ä¹²É³ÖÜ΅àâä΄¨çéèêë£™îï•½‰ôö¦€ùûü†ΓΔΘΛΞΠß®©ΣΪ§≠°·Α±≤≥¥ΒΕΖΗΙΚΜΦΫΨΩάΝ¬ΟΡ≈Τ«»…\xA0ΥΧΆΈœ–―“”‘’÷Ή" ++
    "ΊΌΎέήίόΏύαβψδεφγηιξκλμνοπώρστθωςχυζϊϋΐΰ\xAD"⟩,
  ⟨["mac_iceland", "maciceland"],
    ascii,
    "ÄÅÇÉÑÖÜáàâäãåçéèêëíìîïñóòôöõúùûüÝ°¢£§•¶ß®©™´¨≠ÆØ∞±≤≥¥µ∂∑∏π∫ªºΩæø¿¡¬√ƒ≈∆«»…\xA0ÀÃÕŒœ–—“”‘’÷◊" ++
    "ÿŸ⁄€ÐðÞþý·‚„‰ÂÊÁËÈÍÎÏÌÓÔ\uF8FFÒÚÛÙıˆ˜¯˘˙˚¸˝˛ˇ"⟩,
  ⟨["mac_latin2", "mac_centeuro", "maccentraleurope", "maclatin2"],
    ascii,
    "ÄĀāÉĄÖÜáąČäčĆćéŹźĎíďĒēĖóėôöõúĚěü†°Ę£§•¶ß®©™ę¨≠ģĮįĪ≤≥īĶ∂∑łĻļĽľĹĺŅņŃ¬√ńŇ∆«»…\xA0ňŐÕőŌ–—“”‘’÷◊" ++
    "ōŔŕŘ‹›řŖŗŠ‚„šŚśÁŤťÍŽžŪÓÔūŮÚůŰűŲųÝýķŻŁżĢˇ"⟩,
  ⟨["mac_roman", "macintosh", "macroman"],
    ascii,
    "ÄÅÇÉÑÖÜáàâäãåçéèêëíìîïñóòôöõúùûü†°¢£§•¶ß®©™´¨≠ÆØ∞±≤≥¥µ∂∑∏π∫ªºΩæø¿¡¬√ƒ≈∆«»…\xA0ÀÃÕŒœ–—“”‘’÷◊" ++
    "ÿŸ⁄€‹›ﬁﬂ‡·‚„‰ÂÊÁËÈÍÎÏÌÓÔ\uF8FFÒÚÛÙıˆ˜¯˘˙˚¸˝˛ˇ"⟩,
  ⟨["mac_romanian"],
    ascii,
    "ÄÅÇÉÑÖÜáàâäãåçéèêëíìîïñóòôöõúùûü†°¢£§•¶ß®©™´¨≠ĂȘ∞±≤≥¥µ∂∑∏π∫ªºΩăș¿¡¬√ƒ≈∆«»…\xA0ÀÃÕŒœ–—“”‘’÷◊" ++
    "ÿŸ⁄€‹›Țț‡·‚„‰ÂÊÁËÈÍÎÏÌÓÔ\uF8FFÒÚÛÙıˆ˜¯˘˙˚¸˝˛ˇ"⟩,
  ⟨["mac_turkish", "macturkish"],
    ascii,
    "ÄÅÇÉÑÖÜáàâäãåçéèêëíìîïñóòôöõúùûü†°¢£§•¶ß®©™´¨≠ÆØ∞±≤≥¥µ∂∑∏π∫ªºΩæø¿¡¬√ƒ≈∆«»…\xA0ÀÃÕŒœ–—“”‘’÷◊" ++
    "ÿŸĞğİıŞş‡·‚„‰ÂÊÁËÈÍÎÏÌÓÔ\uF8FFÒÚÛÙ\uF8A0ˆ˜¯˘˙˚¸˝˛ˇ"⟩]

/-- Pages of single countries and makers. -/
def otherPages : List CodePage := [
  ⟨["hp_roman8", "cp1051", "csHPRoman8", "ibm1051", "r8", "roman8"],
    ascii,
    "\x80\x81\x82\x83\x84\x85\x86\x87\x88\x89\x8A\x8B\x8C\x8D\x8E\x8F\x90\x91\x92\x93\x94\x95" ++
    "\x96\x97\x98\x99\x9A\x9B\x9C\x9D\x9E\x9F\xA0ÀÂÈÊËÎÏ´ˋˆ¨˜ÙÛ₤¯Ýý°ÇçÑñ¡¿¤£¥§ƒ¢âêôûáéóúàèòùäëöü" ++
    "ÅîØÆåíøæÄìÖÜÉïßÔÁÃãÐðÍÌÓÒÕõŠšÚŸÿÞþ·µ¶¾—¼½ªº«■»±�"⟩,
  ⟨["koi8_r", "cskoi8r"],
    ascii,
    "─│┌┐└┘├┤┬┴┼▀▄█▌▐░▒▓⌠■∙√≈≤≥\xA0⌡°²·÷═║╒ё╓╔╕╖╗╘╙╚╛╜╝╞╟╠╡Ё╢╣╤╥╦╧╨╩╪╫╬©юабцдефгхийклмнопярстужв" ++
    "ьызшэщчъЮАБЦДЕФГХИЙКЛМНОПЯРСТУЖВЬЫЗШЭЩЧЪ"⟩,
  ⟨["koi8_t"],
    ascii,
    "қғ‚Ғ„…†‡�‰ҳ‹ҲҷҶ�Қ‘’“”•–—�™�›�����ӯӮё¤ӣ¦§���«¬\xAD®�°±²Ё�Ӣ¶·�№�»���©юабцдефгхийклмнопярстужв" ++
    "ьызшэщчъЮАБЦДЕФГХИЙКЛМНОПЯРСТУЖВЬЫЗШЭЩЧЪ"⟩,
  ⟨["koi8_u"],
    ascii,
    "─│┌┐└┘├┤┬┴┼▀▄█▌▐░▒▓⌠■∙√≈≤≥\xA0⌡°²·÷═║╒ёє╔ії╗╘╙╚╛ґ╝╞╟╠╡ЁЄ╣ІЇ╦╧╨╩╪Ґ╬©юабцдефгхийклмнопярстужв" ++
    "ьызшэщчъЮАБЦДЕФГХИЙКЛМНОПЯРСТУЖВЬЫЗШЭЩЧЪ"⟩,
  ⟨["kz1048", "kz_1048", "rk1048", "strk1048_2002"],
    ascii,
    "ЂЃ‚ѓ„…†‡€‰Љ‹ЊҚҺЏђ‘’“”•–—�™љ›њқһџ\xA0ҰұӘ¤Ө¦§Ё©Ғ«¬\xAD®Ү°±Ііөµ¶·ё№ғ»әҢңүАБВГДЕЖЗИЙКЛМНОПРСТУФ" ++
    "ХЦЧШЩЪЫЬЭЮЯабвгдежзийклмнопрстуфхцчшщъыьэюя"⟩,
  ⟨["palmos"],
    ascii,
    "€\x81‚ƒ„…†‡ˆ‰Š‹Œ♦♣♥♠‘’“”•–—˜™š\x9Bœ\x9D\x9EŸ\xA0¡¢£¤¥¦§¨©ª«¬\xAD®¯°±²³´µ¶·¸¹º»¼½¾¿ÀÁÂÃÄÅÆÇÈ" ++
    "ÉÊËÌÍÎÏÐÑÒÓÔÕÖ×ØÙÚÛÜÝÞßàáâãäåæçèéêëìíîïðñòóôõö÷øùúûüýþÿ"⟩,
  ⟨["ptcp154", "cp154", "csptcp154", "cyrillic_asian", "pt154"],
    ascii,
    "ҖҒӮғ„…ҶҮҲүҠӢҢҚҺҸҗ‘’“”•–—ҳҷҡӣңқһҹ\xA0ЎўЈӨҘҰ§Ё©Ә«¬ӯ®Ҝ°ұІіҙө¶·ё№ә»јҪҫҝАБВГДЕЖЗИЙКЛМНОПРСТУФХЦЧ" ++
    "ШЩЪЫЬЭЮЯабвгдежзийклмнопрстуфхцчшщъыьэюя"⟩,
  ⟨["tis_620", "iso_ir_166", "tis620", "tis_620_0", "tis_620_2529_0", "tis_620_2529_1"],
    ascii,
    "\x80\x81\x82\x83\x84\x85\x86\x87\x88\x89\x8A\x8B\x8C\x8D\x8E\x8F\x90\x91\x92\x93\x94\x95" ++
    "\x96\x97\x98\x99\x9A\x9B\x9C\x9D\x9E\x9F�กขฃคฅฆงจฉชซฌญฎฏฐฑฒณดตถทธนบปผฝพฟภมยรฤลฦวศษสหฬอฮฯะ" ++
    "\u0E31าำ\u0E34\u0E35\u0E36\u0E37\u0E38\u0E39\u0E3A����฿เแโใไๅๆ\u0E47\u0E48\u0E49\u0E4A" ++
    "\u0E4B\u0E4C\u0E4D\u0E4E๏๐๑๒๓๔๕๖๗๘๙๚๛����"⟩]

/-- Pages whose lower half is not ASCII. -/
def ownPages : List CodePage := [
  ⟨["cp037", "037", "csibm037", "ebcdic_cp_ca", "ebcdic_cp_nl", "ebcdic_cp_us", "ebcdic_cp_wt",
    "ibm037", "ibm039"],
    ("\x00\x01\x02\x03\x9C\x09\x86\x7F\x97\x8D\x8E\x0B\x0C\x0D\x0E\x0F\x10\x11\x12\x13\x9D\x85" ++
     "\x08\x87\x18\x19\x92\x8F\x1C\x1D\x1E\x1F\x80\x81\x82\x83\x84\x0A\x17\x1B\x88\x89\x8A\x8B" ++
     "\x8C\x05\x06\x07\x90\x91\x16\x93\x94\x95\x96\x04\x98\x99\x9A\x9B\x14\x15\x9E\x1A\x20\xA0âä" ++
     "àáãåçñ¢.<(+|&éêëèíîïìß!$*);¬-/ÂÄÀÁÃÅÇÑ¦,%_>?øÉÊËÈÍÎÏÌ\x60:#@\x27=\x22"),
    "Øabcdefghi«»ðýþ±°jklmnopqrªºæ¸Æ¤µ~stuvwxyz¡¿ÐÝÞ®^£¥·©§¶¼½¾[]¯¨´×\x7BABCDEFGHI\xADôöòóõ\x7DJ" ++
    "KLMNOPQR¹ûüùúÿ\x5C÷STUVWXYZ²ÔÖÒÓÕ0123456789³ÛÜÙÚ\x9F"⟩,
  ⟨["cp1026", "1026", "csibm1026", "ibm1026"],
    ("\x00\x01\x02\x03\x9C\x09\x86\x7F\x97\x8D\x8E\x0B\x0C\x0D\x0E\x0F\x10\x11\x12\x13\x9D\x85" ++
     "\x08\x87\x18\x19\x92\x8F\x1C\x1D\x1E\x1F\x80\x81\x82\x83\x84\x0A\x17\x1B\x88\x89\x8A\x8B" ++
     "\x8C\x05\x06\x07\x90\x91\x16\x93\x94\x95\x96\x04\x98\x99\x9A\x9B\x14\x15\x9E\x1A\x20\xA0âä" ++
     "àáãå\x7BñÇ.<(+!&éêëèíîïìßĞİ*);^-/ÂÄÀÁÃÅ[Ñş,%_>?øÉÊËÈÍÎÏÌı:ÖŞ\x27=Ü"),
    "Øabcdefghi«»\x7D\x60¦±°jklmnopqrªºæ¸Æ¤µöstuvwxyz¡¿]$@®¢£¥·©§¶¼½¾¬|¯¨´×çABCDEFGHI\xADô~òóõğJ" ++
    "KLMNOPQR¹û\x5Cùúÿü÷STUVWXYZ²Ô#ÒÓÕ0123456789³Û\x22ÙÚ\x9F"⟩,
  ⟨["cp1140", "1140", "ibm1140"],
    ("\x00\x01\x02\x03\x9C\x09\x86\x7F\x97\x8D\x8E\x0B\x0C\x0D\x0E\x0F\x10\x11\x12\x13\x9D\x85" ++
     "\x08\x87\x18\x19\x92\x8F\x1C\x1D\x1E\x1F\x80\x81\x82\x83\x84\x0A\x17\x1B\x88\x89\x8A\x8B" ++
     "\x8C\x05\x06\x07\x90\x91\x16\x93\x94\x95\x96\x04\x98\x99\x9A\x9B\x14\x15\x9E\x1A\x20\xA0âä" ++
     "àáãåçñ¢.<(+|&éêëèíîïìß!$*);¬-/ÂÄÀÁÃÅÇÑ¦,%_>?øÉÊËÈÍÎÏÌ\x60:#@\x27=\x22"),
    "Øabcdefghi«»ðýþ±°jklmnopqrªºæ¸Æ€µ~stuvwxyz¡¿ÐÝÞ®^£¥·©§¶¼½¾[]¯¨´×\x7BABCDEFGHI\xADôöòóõ\x7DJ" ++
    "KLMNOPQR¹ûüùúÿ\x5C÷STUVWXYZ²ÔÖÒÓÕ0123456789³ÛÜÙÚ\x9F"⟩,
  ⟨["cp273", "273", "csibm273", "ibm273"],
    ("\x00\x01\x02\x03\x9C\x09\x86\x7F\x97\x8D\x8E\x0B\x0C\x0D\x0E\x0F\x10\x11\x12\x13\x9D\x85" ++
     "\x08\x87\x18\x19\x92\x8F\x1C\x1D\x1E\x1F\x80\x81\x82\x83\x84\x0A\x17\x1B\x88\x89\x8A\x8B" ++
     "\x8C\x05\x06\x07\x90\x91\x16\x93\x94\x95\x96\x04\x98\x99\x9A\x9B\x14\x15\x9E\x1A\x20\xA0â" ++
     "\x7BàáãåçñÄ.<(+!&éêëèíîïì~Ü$*);^-/Â[ÀÁÃÅÇÑö,%_>?øÉÊËÈÍÎÏÌ\x60:#§\x27=\x22"),
    "Øabcdefghi«»ðýþ±°jklmnopqrªºæ¸Æ¤µßstuvwxyz¡¿ÐÝÞ®¢£¥·©@¶¼½¾¬|‾¨´×äABCDEFGHI\xADô¦òóõüJKLMNOP" ++
    "QR¹û\x7DùúÿÖ÷STUVWXYZ²Ô\x5CÒÓÕ0123456789³Û]ÙÚ\x9F"⟩,
  ⟨["cp424", "424", "csibm424", "ebcdic_cp_he", "ibm424"],
    ("\x00\x01\x02\x03\x9C\x09\x86\x7F\x97\x8D\x8E\x0B\x0C\x0D\x0E\x0F\x10\x11\x12\x13\x9D\x85" ++
     "\x08\x87\x18\x19\x92\x8F\x1C\x1D\x1E\x1F\x80\x81\x82\x83\x84\x0A\x17\x1B\x88\x89\x8A\x8B" ++
     "\x8C\x05\x06\x07\x90\x91\x16\x93\x94\x95\x96\x04\x98\x99\x9A\x9B\x14\x15\x9E\x1A\x20\u05D0" ++
     "\u05D1\u05D2\u05D3\u05D4\u05D5\u05D6\u05D7\u05D8¢.<(+|&\u05D9\u05DA\u05DB\u05DC\u05DD" ++
     "\u05DE\u05DF\u05E0\u05E1!$*);¬-/\u05E2\u05E3\u05E4\u05E5\u05E6\u05E7\u05E8\u05E9¦,%_>?�" ++
     "\u05EA��\xA0���‗\x60:#@\x27=\x22"),
    "�abcdefghi«»���±°jklmnopqr���¸�¤µ~stuvwxyz�����®^£¥·©§¶¼½¾[]¯¨´×\x7BABCDEFGHI\xAD�����\x7DJ" ++
    "KLMNOPQR¹�����\x5C÷STUVWXYZ²�����0123456789³����\x9F"⟩,
  ⟨["cp500", "500", "csibm500", "ebcdic_cp_be", "ebcdic_cp_ch", "ibm500"],
    ("\x00\x01\x02\x03\x9C\x09\x86\x7F\x97\x8D\x8E\x0B\x0C\x0D\x0E\x0F\x10\x11\x12\x13\x9D\x85" ++
     "\x08\x87\x18\x19\x92\x8F\x1C\x1D\x1E\x1F\x80\x81\x82\x83\x84\x0A\x17\x1B\x88\x89\x8A\x8B" ++
     "\x8C\x05\x06\x07\x90\x91\x16\x93\x94\x95\x96\x04\x98\x99\x9A\x9B\x14\x15\x9E\x1A\x20\xA0âä" ++
     "àáãåçñ[.<(+!&éêëèíîïìß]$*);^-/ÂÄÀÁÃÅÇÑ¦,%_>?øÉÊËÈÍÎÏÌ\x60:#@\x27=\x22"),
    "Øabcdefghi«»ðýþ±°jklmnopqrªºæ¸Æ¤µ~stuvwxyz¡¿ÐÝÞ®¢£¥·©§¶¼½¾¬|¯¨´×\x7BABCDEFGHI\xADôöòóõ\x7DJ" ++
    "KLMNOPQR¹ûüùúÿ\x5C÷STUVWXYZ²ÔÖÒÓÕ0123456789³ÛÜÙÚ\x9F"⟩,
  ⟨["cp864", "864", "csibm864", "ibm864"],
    ("\x00\x01\x02\x03\x04\x05\x06\x07\x08\x09\x0A\x0B\x0C\x0D\x0E\x0F\x10\x11\x12\x13\x14\x15" ++
     "\x16\x17\x18\x19\x1A\x1B\x1C\x1D\x1E\x1F\x20!\x22#$٪&\x27()*+,-./0123456789:;<=>?@ABCDEFGH" ++
     "IJKLMNOPQRSTUVWXYZ[\x5C]^_\x60abcdefghijklmnopqrstuvwxyz\x7B|\x7D~\x7F"),
    "°·∙√▒─│┼┤┬├┴┐┌└┘β∞φ±½¼≈«»\uFEF7\uFEF8��\uFEFB\uFEFC�\xA0\xAD\uFE82£¤\uFE84��\uFE8E\uFE8F" ++
    "\uFE95\uFE99،\uFE9D\uFEA1\uFEA5\u0660\u0661\u0662\u0663\u0664\u0665\u0666\u0667\u0668\u0669" ++
    "\uFED1\u061B\uFEB1\uFEB5\uFEB9\u061F¢\uFE80\uFE81\uFE83\uFE85\uFECA\uFE8B\uFE8D\uFE91\uFE93" ++
    "\uFE97\uFE9B\uFE9F\uFEA3\uFEA7\uFEA9\uFEAB\uFEAD\uFEAF\uFEB3\uFEB7\uFEBB\uFEBF\uFEC1\uFEC5" ++
    "\uFECB\uFECF¦¬÷×\uFEC9\u0640\uFED3\uFED7\uFEDB\uFEDF\uFEE3\uFEE7\uFEEB\uFEED\uFEEF\uFEF3" ++
    "\uFEBD\uFECC\uFECE\uFECD\uFEE1\uFE7D\u0651\uFEE5\uFEE9\uFEEC\uFEF0\uFEF2\uFED0\uFED5\uFEF5" ++
    "\uFEF6\uFEDD\uFED9\uFEF1■�"⟩,
  ⟨["cp875"],
    ("\x00\x01\x02\x03\x9C\x09\x86\x7F\x97\x8D\x8E\x0B\x0C\x0D\x0E\x0F\x10\x11\x12\x13\x9D\x85" ++
     "\x08\x87\x18\x19\x92\x8F\x1C\x1D\x1E\x1F\x80\x81\x82\x83\x84\x0A\x17\x1B\x88\x89\x8A\x8B" ++
     "\x8C\x05\x06\x07\x90\x91\x16\x93\x94\x95\x96\x04\x98\x99\x9A\x9B\x14\x15\x9E\x1A\x20ΑΒΓΔΕΖ" ++
     "ΗΘΙ[.<(+!&ΚΛΜΝΞΟΠΡΣ]$*);^-/ΤΥΦΧΨΩΪΫ|,%_>?¨ΆΈΉ\xA0ΊΌΎΏ\x60:#@\x27=\x22"),
    "΅abcdefghiαβγδεζ°jklmnopqrηθικλμ´~stuvwxyzνξοπρσ£άέήϊίόύϋώςτυφχψ\x7BABCDEFGHI\xADωΐΰ‘―\x7DJ" ++
    "KLMNOPQR±½\x1A·’¦\x5C\x1ASTUVWXYZ²§\x1A\x1A«¬0123456789³©\x1A\x1A»\x9F"⟩]

/-- All pages. -/
def all : List CodePage :=
  windowsPages ++ isoPages ++ consolePages ++ macPages ++ otherPages ++ ownPages

/-- The character of an octet, if it has one. -/
def char? (table : Array Char) (o : UInt8) : Option Char :=
  (table[o.toNat]?).bind fun c => if c.toNat = 0xFFFD then none else some c

/-- The text of octets in a page, if all of them have a character. -/
def decode? (p : CodePage) (b : List UInt8) : Option String :=
  let table := (p.lower ++ p.upper).toList.toArray
  (b.mapM (char? table)).map String.ofList

end CodePage

end Remittance
