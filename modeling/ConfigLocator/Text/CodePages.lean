import ConfigLocator.Text.Basic

/-!
# Code pages

Encodings that write every character as one byte, with ASCII in the lower half: the names of each and
its characters in the upper half. Names are in small letters, with `_` for any other sign.
-/

namespace ConfigLocator

structure CodePage where
  names : List String
  /-- The characters of the last bytes, `?` for a byte without one. The bytes from 128 on that come
  before them are the characters with their numbers. -/
  upper : String

namespace CodePage

/-- The character of a byte, none if it has none. -/
def character? (page : CodePage) (b : UInt8) : Option Nat :=
  let upper := Text.ofString page.upper
  let start := 256 - upper.length
  if b.toNat < start then some b.toNat
  else
    match upper[b.toNat - start]? with
    | some c => if c = '?' then none else some c
    | none => none

def decode? (page : CodePage) (bytes : List UInt8) : Option Text := bytes.mapM page.character?

end CodePage

def codePages : List CodePage :=
  [
    ⟨["arabic", "asmo_708", "csisolatinarabic", "ecma_114", "iso8859_6", "iso_8859_6",
      "iso_8859_6_1987", "iso_ir_127"],
      "???¤???????،\xAD?????????????\u061B???\u061F?\u0621\u0622\u0623\u0624\u0625\u0626\u0627" ++
      "\u0628\u0629\u062A\u062B\u062C\u062D\u062E\u062F\u0630\u0631\u0632\u0633\u0634\u0635" ++
      "\u0636\u0637\u0638\u0639\u063A?????\u0640\u0641\u0642\u0643\u0644\u0645\u0646\u0647" ++
      "\u0648\u0649\u064A\u064B\u064C\u064D\u064E\u064F\u0650\u0651\u0652?????????????"⟩,
    ⟨["cp1006"],
      "۰۱۲۳۴۵۶۷۸۹،\u061B\xAD\u061F\uFE81\uFE8D\uFE8E\uFE8E\uFE8F\uFE91\uFB56\uFB58\uFE93\uFE95" ++
      "\uFE97\uFB66\uFB68\uFE99\uFE9B\uFE9D\uFE9F\uFB7A\uFB7C\uFEA1\uFEA3\uFEA5\uFEA7\uFEA9" ++
      "\uFB84\uFEAB\uFEAD\uFB8C\uFEAF\uFB8A\uFEB1\uFEB3\uFEB5\uFEB7\uFEB9\uFEBB\uFEBD\uFEBF" ++
      "\uFEC1\uFEC5\uFEC9\uFECA\uFECB\uFECC\uFECD\uFECE\uFECF\uFED0\uFED1\uFED3\uFED5\uFED7" ++
      "\uFED9\uFEDB\uFB92\uFB94\uFEDD\uFEDF\uFEE0\uFEE1\uFEE3\uFB9E\uFEE5\uFEE7\uFE85\uFEED" ++
      "\uFBA6\uFBA8\uFBA9\uFBAA\uFE80\uFE89\uFE8A\uFE8B\uFEF1\uFEF2\uFEF3\uFBB0\uFBAE\uFE7C" ++
      "\uFE7D"⟩,
    ⟨["cp1051", "hp_roman8", "ibm1051", "r8", "roman8"],
      "ÀÂÈÊËÎÏ\xB4\u02CB\u02C6\xA8\u02DCÙÛ₤\xAFÝý°ÇçÑñ¡¿¤£¥§ƒ¢âêôûáéóúàèòùäëöüÅîØÆåíøæÄìÖÜÉïßÔ" ++
      "ÁÃãÐðÍÌÓÒÕõŠšÚŸÿÞþ·µ¶¾—¼½ªº\xAB■\xBB±?"⟩,
    ⟨["cp1125", "cp866u", "ibm1125", "ruscii"],
      "АБВГДЕЖЗИЙКЛМНОПРСТУФХЦЧШЩЪЫЬЭЮЯабвгдежзийклмноп░▒▓│┤╡╢╖╕╣║╗╝╜╛┐└┴┬├─┼╞╟╚╔╩╦╠═╬╧╨╤╥╙╘╒╓" ++
      "╫╪┘┌█▄▌▐▀рстуфхцчшщъыьэюяЁёҐґЄєІіЇї·√№¤■\xA0"⟩,
    ⟨["cp1250", "windows_1250"],
      "€?‚?„…†‡?‰Š‹ŚŤŽŹ?‘’“”•–—?™š›śťžź\xA0\u02C7\u02D8Ł¤Ą¦§\xA8©Ş\xAB¬\xAD®Ż°±\u02DBł\xB4µ¶·" ++
      "\xB8ąş\xBBĽ\u02DDľżŔÁÂĂÄĹĆÇČÉĘËĚÍÎĎĐŃŇÓÔŐÖ×ŘŮÚŰÜÝŢßŕáâăäĺćçčéęëěíîďđńňóôőö÷řůúűüýţ" ++
      "\u02D9"⟩,
    ⟨["cp1251", "windows_1251"],
      "ЂЃ‚ѓ„…†‡€‰Љ‹ЊЌЋЏђ‘’“”•–—?™љ›њќћџ\xA0ЎўЈ¤Ґ¦§Ё©Є\xAB¬\xAD®Ї°±Ііґµ¶·ё№є\xBBјЅѕїАБВГДЕЖЗИЙК" ++
      "ЛМНОПРСТУФХЦЧШЩЪЫЬЭЮЯабвгдежзийклмнопрстуфхцчшщъыьэюя"⟩,
    ⟨["cp1252", "windows_1252"],
      "€?‚ƒ„…†‡\u02C6‰Š‹Œ?Ž??‘’“”•–—\u02DC™š›œ?žŸ\xA0¡¢£¤¥¦§\xA8©ª\xAB¬\xAD®\xAF°±²³\xB4µ¶·" ++
      "\xB8¹º\xBB¼½¾¿ÀÁÂÃÄÅÆÇÈÉÊËÌÍÎÏÐÑÒÓÔÕÖ×ØÙÚÛÜÝÞßàáâãäåæçèéêëìíîïðñòóôõö÷øùúûüýþÿ"⟩,
    ⟨["cp1253", "windows_1253"],
      "€?‚ƒ„…†‡?‰?‹?????‘’“”•–—?™?›????\xA0\u0385Ά£¤¥¦§\xA8©?\xAB¬\xAD®―°±²³\u0384µ¶·ΈΉΊ\xBBΌ½" ++
      "ΎΏΐΑΒΓΔΕΖΗΘΙΚΛΜΝΞΟΠΡ?ΣΤΥΦΧΨΩΪΫάέήίΰαβγδεζηθικλμνξοπρςστυφχψωϊϋόύώ?"⟩,
    ⟨["cp1254", "windows_1254"],
      "€?‚ƒ„…†‡\u02C6‰Š‹Œ????‘’“”•–—\u02DC™š›œ??Ÿ\xA0¡¢£¤¥¦§\xA8©ª\xAB¬\xAD®\xAF°±²³\xB4µ¶·" ++
      "\xB8¹º\xBB¼½¾¿ÀÁÂÃÄÅÆÇÈÉÊËÌÍÎÏĞÑÒÓÔÕÖ×ØÙÚÛÜİŞßàáâãäåæçèéêëìíîïğñòóôõö÷øùúûüışÿ"⟩,
    ⟨["cp1255", "windows_1255"],
      "€?‚ƒ„…†‡\u02C6‰?‹?????‘’“”•–—\u02DC™?›????\xA0¡¢£₪¥¦§\xA8©×\xAB¬\xAD®\xAF°±²³\xB4µ¶·" ++
      "\xB8¹÷\xBB¼½¾¿\u05B0\u05B1\u05B2\u05B3\u05B4\u05B5\u05B6\u05B7\u05B8\u05B9?\u05BB\u05BC" ++
      "\u05BD\u05BE\u05BF\u05C0\u05C1\u05C2\u05C3\u05F0\u05F1\u05F2\u05F3\u05F4???????\u05D0" ++
      "\u05D1\u05D2\u05D3\u05D4\u05D5\u05D6\u05D7\u05D8\u05D9\u05DA\u05DB\u05DC\u05DD\u05DE" ++
      "\u05DF\u05E0\u05E1\u05E2\u05E3\u05E4\u05E5\u05E6\u05E7\u05E8\u05E9\u05EA??\u200E\u200F?"⟩,
    ⟨["cp1256", "windows_1256"],
      "€\u067E‚ƒ„…†‡\u02C6‰\u0679‹Œ\u0686\u0698\u0688\u06AF‘’“”•–—\u06A9™\u0691›œ\u200C\u200D" ++
      "\u06BA\xA0،¢£¤¥¦§\xA8©\u06BE\xAB¬\xAD®\xAF°±²³\xB4µ¶·\xB8¹\u061B\xBB¼½¾\u061F\u06C1" ++
      "\u0621\u0622\u0623\u0624\u0625\u0626\u0627\u0628\u0629\u062A\u062B\u062C\u062D\u062E" ++
      "\u062F\u0630\u0631\u0632\u0633\u0634\u0635\u0636×\u0637\u0638\u0639\u063A\u0640\u0641" ++
      "\u0642\u0643à\u0644â\u0645\u0646\u0647\u0648çèéêë\u0649\u064Aîï\u064B\u064C\u064D\u064E" ++
      "ô\u064F\u0650÷\u0651ù\u0652ûü\u200E\u200F\u06D2"⟩,
    ⟨["cp1257", "windows_1257"],
      "€?‚?„…†‡?‰?‹?\xA8\u02C7\xB8?‘’“”•–—?™?›?\xAF\u02DB?\xA0?¢£¤?¦§Ø©Ŗ\xAB¬\xAD®Æ°±²³\xB4µ¶·" ++
      "ø¹ŗ\xBB¼½¾æĄĮĀĆÄÅĘĒČÉŹĖĢĶĪĻŠŃŅÓŌÕÖ×ŲŁŚŪÜŻŽßąįāćäåęēčéźėģķīļšńņóōõö÷ųłśūüżž\u02D9"⟩,
    ⟨["cp1258", "windows_1258"],
      "€?‚ƒ„…†‡\u02C6‰?‹Œ????‘’“”•–—\u02DC™?›œ??Ÿ\xA0¡¢£¤¥¦§\xA8©ª\xAB¬\xAD®\xAF°±²³\xB4µ¶·" ++
      "\xB8¹º\xBB¼½¾¿ÀÁÂĂÄÅÆÇÈÉÊË\u0300ÍÎÏĐÑ\u0309ÓÔƠÖ×ØÙÚÛÜƯ\u0303ßàáâăäåæçèéêë\u0301íîïđñ" ++
      "\u0323óôơö÷øùúûüư₫ÿ"⟩,
    ⟨["cp154", "csptcp154", "cyrillic_asian", "pt154", "ptcp154"],
      "ҖҒӮғ„…ҶҮҲүҠӢҢҚҺҸҗ‘’“”•–—ҳҷҡӣңқһҹ\xA0ЎўЈӨҘҰ§Ё©Ә\xAB¬ӯ®Ҝ°ұІіҙө¶·ё№ә\xBBјҪҫҝАБВГДЕЖЗИЙКЛМН" ++
      "ОПРСТУФХЦЧШЩЪЫЬЭЮЯабвгдежзийклмнопрстуфхцчшщъыьэюя"⟩,
    ⟨["cp437", "cspc8codepage437", "ibm437"],
      "ÇüéâäàåçêëèïîìÄÅÉæÆôöòûùÿÖÜ¢£¥₧ƒáíóúñÑªº¿⌐¬½¼¡\xAB\xBB░▒▓│┤╡╢╖╕╣║╗╝╜╛┐└┴┬├─┼╞╟╚╔╩╦╠═╬╧╨" ++
      "╤╥╙╘╒╓╫╪┘┌█▄▌▐▀αßΓπΣσµτΦΘΩδ∞φε∩≡±≥≤⌠⌡÷≈°∙·√\u207F²■\xA0"⟩,
    ⟨["cp720"],
      "éâ\x84à\x86çêëèïî\x8D\x8E\x8F\x90\u0651\u0652ô¤\u0640ûù\u0621\u0622\u0623\u0624£\u0625" ++
      "\u0626\u0627\u0628\u0629\u062A\u062B\u062C\u062D\u062E\u062F\u0630\u0631\u0632\u0633" ++
      "\u0634\u0635\xAB\xBB░▒▓│┤╡╢╖╕╣║╗╝╜╛┐└┴┬├─┼╞╟╚╔╩╦╠═╬╧╨╤╥╙╘╒╓╫╪┘┌█▄▌▐▀\u0636\u0637\u0638" ++
      "\u0639\u063A\u0641µ\u0642\u0643\u0644\u0645\u0646\u0647\u0648\u0649\u064A≡\u064B\u064C" ++
      "\u064D\u064E\u064F\u0650≈°∙·√\u207F²■\xA0"⟩,
    ⟨["cp737"],
      "ΑΒΓΔΕΖΗΘΙΚΛΜΝΞΟΠΡΣΤΥΦΧΨΩαβγδεζηθικλμνξοπρσςτυφχψ░▒▓│┤╡╢╖╕╣║╗╝╜╛┐└┴┬├─┼╞╟╚╔╩╦╠═╬╧╨╤╥╙╘╒╓" ++
      "╫╪┘┌█▄▌▐▀ωάέήϊίόύϋώΆΈΉΊΌΎΏ±≥≤ΪΫ÷≈°∙·√\u207F²■\xA0"⟩,
    ⟨["cp775", "cspc775baltic", "ibm775"],
      "ĆüéāäģåćłēŖŗīŹÄÅÉæÆōöĢ¢ŚśÖÜø£Ø×¤ĀĪóŻżź”¦©®¬½¼Ł\xAB\xBB░▒▓│┤ĄČĘĖ╣║╗╝ĮŠ┐└┴┬├─┼ŲŪ╚╔╩╦╠═╬Žą" ++
      "čęėįšųūž┘┌█▄▌▐▀ÓßŌŃõÕµńĶķĻļņĒŅ’\xAD±“¾¶§÷„°∙·¹³²■\xA0"⟩,
    ⟨["cp850", "cspc850multilingual", "ibm850"],
      "ÇüéâäàåçêëèïîìÄÅÉæÆôöòûùÿÖÜø£Ø×ƒáíóúñÑªº¿®¬½¼¡\xAB\xBB░▒▓│┤ÁÂÀ©╣║╗╝¢¥┐└┴┬├─┼ãÃ╚╔╩╦╠═╬¤ð" ++
      "ÐÊËÈıÍÎÏ┘┌█▄¦Ì▀ÓßÔÒõÕµþÞÚÛÙýÝ\xAF\xB4\xAD±‗¾¶§÷\xB8°\xA8·¹³²■\xA0"⟩,
    ⟨["cp852", "cspcp852", "ibm852"],
      "ÇüéâäůćçłëŐőîŹÄĆÉĹĺôöĽľŚśÖÜŤťŁ×čáíóúĄąŽžĘę¬źČş\xAB\xBB░▒▓│┤ÁÂĚŞ╣║╗╝Żż┐└┴┬├─┼Ăă╚╔╩╦╠═╬¤đ" ++
      "ĐĎËďŇÍÎě┘┌█▄ŢŮ▀ÓßÔŃńňŠšŔÚŕŰýÝţ\xB4\xAD\u02DD\u02DB\u02C7\u02D8§÷\xB8°\xA8\u02D9űŘř■\xA0"⟩,
    ⟨["cp855", "csibm855", "ibm855"],
      "ђЂѓЃёЁєЄѕЅіІїЇјЈљЉњЊћЋќЌўЎџЏюЮъЪаАбБцЦдДеЕфФгГ\xAB\xBB░▒▓│┤хХиИ╣║╗╝йЙ┐└┴┬├─┼кК╚╔╩╦╠═╬¤л" ++
      "ЛмМнНоОп┘┌█▄Пя▀ЯрРсСтТуУжЖвВьЬ№\xADыЫзЗшШэЭщЩчЧ§■\xA0"⟩,
    ⟨["cp856"],
      "\u05D0\u05D1\u05D2\u05D3\u05D4\u05D5\u05D6\u05D7\u05D8\u05D9\u05DA\u05DB\u05DC\u05DD" ++
      "\u05DE\u05DF\u05E0\u05E1\u05E2\u05E3\u05E4\u05E5\u05E6\u05E7\u05E8\u05E9\u05EA?£?×?????" ++
      "?????®¬½¼?\xAB\xBB░▒▓│┤???©╣║╗╝¢¥┐└┴┬├─┼??╚╔╩╦╠═╬¤?????????┘┌█▄¦?▀??????µ???????\xAF" ++
      "\xB4\xAD±‗¾¶§÷\xB8°\xA8·¹³²■\xA0"⟩,
    ⟨["cp857", "csibm857", "ibm857"],
      "ÇüéâäàåçêëèïîıÄÅÉæÆôöòûùİÖÜø£ØŞşáíóúñÑĞğ¿®¬½¼¡\xAB\xBB░▒▓│┤ÁÂÀ©╣║╗╝¢¥┐└┴┬├─┼ãÃ╚╔╩╦╠═╬¤º" ++
      "ªÊËÈ?ÍÎÏ┘┌█▄¦Ì▀ÓßÔÒõÕµ?×ÚÛÙìÿ\xAF\xB4\xAD±?¾¶§÷\xB8°\xA8·¹³²■\xA0"⟩,
    ⟨["cp858", "csibm858", "ibm858"],
      "ÇüéâäàåçêëèïîìÄÅÉæÆôöòûùÿÖÜø£Ø×ƒáíóúñÑªº¿®¬½¼¡\xAB\xBB░▒▓│┤ÁÂÀ©╣║╗╝¢¥┐└┴┬├─┼ãÃ╚╔╩╦╠═╬¤ð" ++
      "ÐÊËÈ€ÍÎÏ┘┌█▄¦Ì▀ÓßÔÒõÕµþÞÚÛÙýÝ\xAF\xB4\xAD±‗¾¶§÷\xB8°\xA8·¹³²■\xA0"⟩,
    ⟨["cp860", "csibm860", "ibm860"],
      "ÇüéâãàÁçêÊèÍÔìÃÂÉÀÈôõòÚùÌÕÜ¢£Ù₧ÓáíóúñÑªº¿Ò¬½¼¡\xAB\xBB░▒▓│┤╡╢╖╕╣║╗╝╜╛┐└┴┬├─┼╞╟╚╔╩╦╠═╬╧╨" ++
      "╤╥╙╘╒╓╫╪┘┌█▄▌▐▀αßΓπΣσµτΦΘΩδ∞φε∩≡±≥≤⌠⌡÷≈°∙·√\u207F²■\xA0"⟩,
    ⟨["cp861", "cp_is", "csibm861", "ibm861"],
      "ÇüéâäàåçêëèÐðÞÄÅÉæÆôöþûÝýÖÜø£Ø₧ƒáíóúÁÍÓÚ¿⌐¬½¼¡\xAB\xBB░▒▓│┤╡╢╖╕╣║╗╝╜╛┐└┴┬├─┼╞╟╚╔╩╦╠═╬╧╨" ++
      "╤╥╙╘╒╓╫╪┘┌█▄▌▐▀αßΓπΣσµτΦΘΩδ∞φε∩≡±≥≤⌠⌡÷≈°∙·√\u207F²■\xA0"⟩,
    ⟨["cp862", "cspc862latinhebrew", "ibm862"],
      "\u05D0\u05D1\u05D2\u05D3\u05D4\u05D5\u05D6\u05D7\u05D8\u05D9\u05DA\u05DB\u05DC\u05DD" ++
      "\u05DE\u05DF\u05E0\u05E1\u05E2\u05E3\u05E4\u05E5\u05E6\u05E7\u05E8\u05E9\u05EA¢£¥₧ƒáíóú" ++
      "ñÑªº¿⌐¬½¼¡\xAB\xBB░▒▓│┤╡╢╖╕╣║╗╝╜╛┐└┴┬├─┼╞╟╚╔╩╦╠═╬╧╨╤╥╙╘╒╓╫╪┘┌█▄▌▐▀αßΓπΣσµτΦΘΩδ∞φε∩≡±≥≤⌠" ++
      "⌡÷≈°∙·√\u207F²■\xA0"⟩,
    ⟨["cp863", "csibm863", "ibm863"],
      "ÇüéâÂà¶çêëèïî‗À§ÉÈÊôËÏûù¤ÔÜ¢£ÙÛƒ¦\xB4óú\xA8\xB8³\xAFÎ⌐¬½¼¾\xAB\xBB░▒▓│┤╡╢╖╕╣║╗╝╜╛┐└┴┬├─" ++
      "┼╞╟╚╔╩╦╠═╬╧╨╤╥╙╘╒╓╫╪┘┌█▄▌▐▀αßΓπΣσµτΦΘΩδ∞φε∩≡±≥≤⌠⌡÷≈°∙·√\u207F²■\xA0"⟩,
    ⟨["cp865", "csibm865", "ibm865"],
      "ÇüéâäàåçêëèïîìÄÅÉæÆôöòûùÿÖÜø£Ø₧ƒáíóúñÑªº¿⌐¬½¼¡\xAB¤░▒▓│┤╡╢╖╕╣║╗╝╜╛┐└┴┬├─┼╞╟╚╔╩╦╠═╬╧╨╤╥╙" ++
      "╘╒╓╫╪┘┌█▄▌▐▀αßΓπΣσµτΦΘΩδ∞φε∩≡±≥≤⌠⌡÷≈°∙·√\u207F²■\xA0"⟩,
    ⟨["cp866", "csibm866", "ibm866"],
      "АБВГДЕЖЗИЙКЛМНОПРСТУФХЦЧШЩЪЫЬЭЮЯабвгдежзийклмноп░▒▓│┤╡╢╖╕╣║╗╝╜╛┐└┴┬├─┼╞╟╚╔╩╦╠═╬╧╨╤╥╙╘╒╓" ++
      "╫╪┘┌█▄▌▐▀рстуфхцчшщъыьэюяЁёЄєЇїЎў°∙·√№¤■\xA0"⟩,
    ⟨["cp869", "cp_gr", "csibm869", "ibm869"],
      "??????Ά?·¬¦‘’Έ―ΉΊΪΌ??ΎΫ©Ώ²³ά£έήίϊΐόύΑΒΓΔΕΖΗ½ΘΙ\xAB\xBB░▒▓│┤ΚΛΜΝ╣║╗╝ΞΟ┐└┴┬├─┼ΠΡ╚╔╩╦╠═╬ΣΤ" ++
      "ΥΦΧΨΩαβγ┘┌█▄δε▀ζηθικλμνξοπρσςτ\u0384\xAD±υφχ§ψ\u0385°\xA8ωϋΰώ■\xA0"⟩,
    ⟨["cp874"],
      "€????…???????????‘’“”•–—????????\xA0กขฃคฅฆงจฉชซฌญฎฏฐฑฒณดตถทธนบปผฝพฟภมยรฤลฦวศษสหฬอฮฯะ" ++
      "\u0E31าำ\u0E34\u0E35\u0E36\u0E37\u0E38\u0E39\u0E3A????฿เแโใไๅ\u0E46\u0E47\u0E48\u0E49" ++
      "\u0E4A\u0E4B\u0E4C\u0E4D\u0E4E๏๐๑๒๓๔๕๖๗๘๙๚๛????"⟩,
    ⟨["csisolatin2", "iso8859_2", "iso_8859_2", "iso_8859_2_1987", "iso_ir_101", "l2", "latin2"],
      "Ą\u02D8Ł¤ĽŚ§\xA8ŠŞŤŹ\xADŽŻ°ą\u02DBł\xB4ľś\u02C7\xB8šşťź\u02DDžżŔÁÂĂÄĹĆÇČÉĘËĚÍÎĎĐŃŇÓÔŐÖ×" ++
      "ŘŮÚŰÜÝŢßŕáâăäĺćçčéęëěíîďđńňóôőö÷řůúűüýţ\u02D9"⟩,
    ⟨["csisolatin3", "iso8859_3", "iso_8859_3", "iso_8859_3_1988", "iso_ir_109", "l3", "latin3"],
      "Ħ\u02D8£¤?Ĥ§\xA8İŞĞĴ\xAD?Ż°ħ²³\xB4µĥ·\xB8ışğĵ½?żÀÁÂ?ÄĊĈÇÈÉÊËÌÍÎÏ?ÑÒÓÔĠÖ×ĜÙÚÛÜŬŜßàáâ?äċĉ" ++
      "çèéêëìíîï?ñòóôġö÷ĝùúûüŭŝ\u02D9"⟩,
    ⟨["csisolatin4", "iso8859_4", "iso_8859_4", "iso_8859_4_1988", "iso_ir_110", "l4", "latin4"],
      "ĄĸŖ¤ĨĻ§\xA8ŠĒĢŦ\xADŽ\xAF°ą\u02DBŗ\xB4ĩļ\u02C7\xB8šēģŧŊžŋĀÁÂÃÄÅÆĮČÉĘËĖÍÎĪĐŅŌĶÔÕÖ×ØŲÚÛÜŨŪ" ++
      "ßāáâãäåæįčéęëėíîīđņōķôõö÷øųúûüũū\u02D9"⟩,
    ⟨["csisolatin5", "iso8859_9", "iso_8859_9", "iso_8859_9_1989", "iso_ir_148", "l5", "latin5"],
      "ĞÑÒÓÔÕÖ×ØÙÚÛÜİŞßàáâãäåæçèéêëìíîïğñòóôõö÷øùúûüışÿ"⟩,
    ⟨["csisolatin6", "iso8859_10", "iso_8859_10", "iso_8859_10_1992", "iso_ir_157", "l6", "latin6"],
      "ĄĒĢĪĨĶ§ĻĐŠŦŽ\xADŪŊ°ąēģīĩķ·ļđšŧž―ūŋĀÁÂÃÄÅÆĮČÉĘËĖÍÎÏÐŅŌÓÔÕÖŨØŲÚÛÜÝÞßāáâãäåæįčéęëėíîïðņōóô" ++
      "õöũøųúûüýþĸ"⟩,
    ⟨["csisolatincyrillic", "cyrillic", "iso8859_5", "iso_8859_5", "iso_8859_5_1988", "iso_ir_144"],
      "ЁЂЃЄЅІЇЈЉЊЋЌ\xADЎЏАБВГДЕЖЗИЙКЛМНОПРСТУФХЦЧШЩЪЫЬЭЮЯабвгдежзийклмнопрстуфхцчшщъыьэюя№ёђѓє" ++
      "ѕіїјљњћќ§ўџ"⟩,
    ⟨["csisolatingreek", "ecma_118", "elot_928", "greek", "greek8", "iso8859_7", "iso_8859_7",
      "iso_8859_7_1987", "iso_ir_126"],
      "‘’£€₯¦§\xA8©\u037A\xAB¬\xAD?―°±²³\u0384\u0385Ά·ΈΉΊ\xBBΌ½ΎΏΐΑΒΓΔΕΖΗΘΙΚΛΜΝΞΟΠΡ?ΣΤΥΦΧΨΩΪΫά" ++
      "έήίΰαβγδεζηθικλμνξοπρςστυφχψωϊϋόύώ?"⟩,
    ⟨["csisolatinhebrew", "hebrew", "iso8859_8", "iso_8859_8", "iso_8859_8_1988", "iso_ir_138"],
      "?¢£¤¥¦§\xA8©×\xAB¬\xAD®\xAF°±²³\xB4µ¶·\xB8¹÷\xBB¼½¾????????????????????????????????‗" ++
      "\u05D0\u05D1\u05D2\u05D3\u05D4\u05D5\u05D6\u05D7\u05D8\u05D9\u05DA\u05DB\u05DC\u05DD" ++
      "\u05DE\u05DF\u05E0\u05E1\u05E2\u05E3\u05E4\u05E5\u05E6\u05E7\u05E8\u05E9\u05EA??\u200E" ++
      "\u200F?"⟩,
    ⟨["cskoi8r", "koi8_r"],
      "─│┌┐└┘├┤┬┴┼▀▄█▌▐░▒▓⌠■∙√≈≤≥\xA0⌡°²·÷═║╒ё╓╔╕╖╗╘╙╚╛╜╝╞╟╠╡Ё╢╣╤╥╦╧╨╩╪╫╬©юабцдефгхийклмнопярс" ++
      "тужвьызшэщчъЮАБЦДЕФГХИЙКЛМНОПЯРСТУЖВЬЫЗШЭЩЧЪ"⟩,
    ⟨["iso8859_11", "iso_8859_11", "iso_8859_11_2001", "thai"],
      "กขฃคฅฆงจฉชซฌญฎฏฐฑฒณดตถทธนบปผฝพฟภมยรฤลฦวศษสหฬอฮฯะ\u0E31าำ\u0E34\u0E35\u0E36\u0E37\u0E38" ++
      "\u0E39\u0E3A????฿เแโใไๅ\u0E46\u0E47\u0E48\u0E49\u0E4A\u0E4B\u0E4C\u0E4D\u0E4E๏๐๑๒๓๔๕๖๗๘" ++
      "๙๚๛????"⟩,
    ⟨["iso8859_13", "iso_8859_13", "l7", "latin7"],
      "”¢£¤„¦§Ø©Ŗ\xAB¬\xAD®Æ°±²³“µ¶·ø¹ŗ\xBB¼½¾æĄĮĀĆÄÅĘĒČÉŹĖĢĶĪĻŠŃŅÓŌÕÖ×ŲŁŚŪÜŻŽßąįāćäåęēčéźėģķī" ++
      "ļšńņóōõö÷ųłśūüżž’"⟩,
    ⟨["iso8859_14", "iso_8859_14", "iso_8859_14_1998", "iso_celtic", "iso_ir_199", "l8", "latin8"],
      "Ḃḃ£ĊċḊ§Ẁ©ẂḋỲ\xAD®ŸḞḟĠġṀṁ¶ṖẁṗẃṠỳẄẅṡÀÁÂÃÄÅÆÇÈÉÊËÌÍÎÏŴÑÒÓÔÕÖṪØÙÚÛÜÝŶßàáâãäåæçèéêëìíîïŵñòóô" ++
      "õöṫøùúûüýŷÿ"⟩,
    ⟨["iso8859_15", "iso_8859_15", "l9", "latin9"],
      "€¥Š§š©ª\xAB¬\xAD®\xAF°±²³Žµ¶·ž¹º\xBBŒœŸ¿ÀÁÂÃÄÅÆÇÈÉÊËÌÍÎÏÐÑÒÓÔÕÖ×ØÙÚÛÜÝÞßàáâãäåæçèéêëìíî" ++
      "ïðñòóôõö÷øùúûüýþÿ"⟩,
    ⟨["iso8859_16", "iso_8859_16", "iso_8859_16_2001", "iso_ir_226", "l10", "latin10"],
      "ĄąŁ€„Š§š©Ș\xABŹ\xADźŻ°±ČłŽ”¶·žčș\xBBŒœŸżÀÁÂĂÄĆÆÇÈÉÊËÌÍÎÏĐŃÒÓÔŐÖŚŰÙÚÛÜĘȚßàáâăäćæçèéêëìíî" ++
      "ïđńòóôőöśűùúûüęțÿ"⟩,
    ⟨["iso_ir_166", "tis620", "tis_620", "tis_620_0", "tis_620_2529_0", "tis_620_2529_1"],
      "?กขฃคฅฆงจฉชซฌญฎฏฐฑฒณดตถทธนบปผฝพฟภมยรฤลฦวศษสหฬอฮฯะ\u0E31าำ\u0E34\u0E35\u0E36\u0E37\u0E38" ++
      "\u0E39\u0E3A????฿เแโใไๅ\u0E46\u0E47\u0E48\u0E49\u0E4A\u0E4B\u0E4C\u0E4D\u0E4E๏๐๑๒๓๔๕๖๗๘" ++
      "๙๚๛????"⟩,
    ⟨["koi8_t"],
      "қғ‚Ғ„…†‡?‰ҳ‹ҲҷҶ?Қ‘’“”•–—?™?›?????ӯӮё¤ӣ¦§???\xAB¬\xAD®?°±²Ё?Ӣ¶·?№?\xBB???©юабцдефгхийклм" ++
      "нопярстужвьызшэщчъЮАБЦДЕФГХИЙКЛМНОПЯРСТУЖВЬЫЗШЭЩЧЪ"⟩,
    ⟨["koi8_u"],
      "─│┌┐└┘├┤┬┴┼▀▄█▌▐░▒▓⌠■∙√≈≤≥\xA0⌡°²·÷═║╒ёє╔ії╗╘╙╚╛ґ╝╞╟╠╡ЁЄ╣ІЇ╦╧╨╩╪Ґ╬©юабцдефгхийклмнопярс" ++
      "тужвьызшэщчъЮАБЦДЕФГХИЙКЛМНОПЯРСТУЖВЬЫЗШЭЩЧЪ"⟩,
    ⟨["kz1048", "kz_1048", "rk1048", "strk1048_2002"],
      "ЂЃ‚ѓ„…†‡€‰Љ‹ЊҚҺЏђ‘’“”•–—?™љ›њқһџ\xA0ҰұӘ¤Ө¦§Ё©Ғ\xAB¬\xAD®Ү°±Ііөµ¶·ё№ғ\xBBәҢңүАБВГДЕЖЗИЙК" ++
      "ЛМНОПРСТУФХЦЧШЩЪЫЬЭЮЯабвгдежзийклмнопрстуфхцчшщъыьэюя"⟩,
    ⟨["mac_centeuro", "mac_latin2", "maccentraleurope", "maclatin2"],
      "ÄĀāÉĄÖÜáąČäčĆćéŹźĎíďĒēĖóėôöõúĚěü†°Ę£§•¶ß®©™ę\xA8≠ģĮįĪ≤≥īĶ∂∑łĻļĽľĹĺŅņŃ¬√ńŇ∆\xAB\xBB…\xA0" ++
      "ňŐÕőŌ–—“”‘’÷◊ōŔŕŘ‹›řŖŗŠ‚„šŚśÁŤťÍŽžŪÓÔūŮÚůŰűŲųÝýķŻŁżĢ\u02C7"⟩,
    ⟨["mac_croatian"],
      "ÄÅÇÉÑÖÜáàâäãåçéèêëíìîïñóòôöõúùûü†°¢£§•¶ß®Š™\xB4\xA8≠ŽØ∞±≤≥∆µ∂∑∏š∫ªºΩžø¿¡¬√ƒ≈Ć\xABČ…\xA0" ++
      "ÀÃÕŒœĐ—“”‘’÷◊\uF8FF©⁄€‹›Æ\xBB–·‚„‰ÂćÁčÈÍÎÏÌÓÔđÒÚÛÙı\u02C6\u02DC\xAFπË\u02DA\xB8Êæ\u02C7"⟩,
    ⟨["mac_cyrillic", "maccyrillic"],
      "АБВГДЕЖЗИЙКЛМНОПРСТУФХЦЧШЩЪЫЬЭЮЯ†°Ґ£§•¶І®©™Ђђ≠Ѓѓ∞±≤≥іµґЈЄєЇїЉљЊњјЅ¬√ƒ≈∆\xAB\xBB…\xA0ЋћЌ" ++
      "ќѕ–—“”‘’÷„ЎўЏџ№Ёёяабвгдежзийклмнопрстуфхцчшщъыьэю€"⟩,
    ⟨["mac_greek", "macgreek"],
      "Ä¹²É³ÖÜ\u0385àâä\u0384\xA8çéèêë£™îï•½‰ôö¦€ùûü†ΓΔΘΛΞΠß®©ΣΪ§≠°·Α±≤≥¥ΒΕΖΗΙΚΜΦΫΨΩάΝ¬ΟΡ≈Τ" ++
      "\xAB\xBB…\xA0ΥΧΆΈœ–―“”‘’÷ΉΊΌΎέήίόΏύαβψδεφγηιξκλμνοπώρστθωςχυζϊϋΐΰ\xAD"⟩,
    ⟨["mac_iceland", "maciceland"],
      "ÄÅÇÉÑÖÜáàâäãåçéèêëíìîïñóòôöõúùûüÝ°¢£§•¶ß®©™\xB4\xA8≠ÆØ∞±≤≥¥µ∂∑∏π∫ªºΩæø¿¡¬√ƒ≈∆\xAB\xBB…" ++
      "\xA0ÀÃÕŒœ–—“”‘’÷◊ÿŸ⁄€ÐðÞþý·‚„‰ÂÊÁËÈÍÎÏÌÓÔ\uF8FFÒÚÛÙı\u02C6\u02DC\xAF\u02D8\u02D9\u02DA" ++
      "\xB8\u02DD\u02DB\u02C7"⟩,
    ⟨["mac_roman", "macintosh", "macroman"],
      "ÄÅÇÉÑÖÜáàâäãåçéèêëíìîïñóòôöõúùûü†°¢£§•¶ß®©™\xB4\xA8≠ÆØ∞±≤≥¥µ∂∑∏π∫ªºΩæø¿¡¬√ƒ≈∆\xAB\xBB…" ++
      "\xA0ÀÃÕŒœ–—“”‘’÷◊ÿŸ⁄€‹›ﬁﬂ‡·‚„‰ÂÊÁËÈÍÎÏÌÓÔ\uF8FFÒÚÛÙı\u02C6\u02DC\xAF\u02D8\u02D9\u02DA" ++
      "\xB8\u02DD\u02DB\u02C7"⟩,
    ⟨["mac_romanian"],
      "ÄÅÇÉÑÖÜáàâäãåçéèêëíìîïñóòôöõúùûü†°¢£§•¶ß®©™\xB4\xA8≠ĂȘ∞±≤≥¥µ∂∑∏π∫ªºΩăș¿¡¬√ƒ≈∆\xAB\xBB…" ++
      "\xA0ÀÃÕŒœ–—“”‘’÷◊ÿŸ⁄€‹›Țț‡·‚„‰ÂÊÁËÈÍÎÏÌÓÔ\uF8FFÒÚÛÙı\u02C6\u02DC\xAF\u02D8\u02D9\u02DA" ++
      "\xB8\u02DD\u02DB\u02C7"⟩,
    ⟨["mac_turkish", "macturkish"],
      "ÄÅÇÉÑÖÜáàâäãåçéèêëíìîïñóòôöõúùûü†°¢£§•¶ß®©™\xB4\xA8≠ÆØ∞±≤≥¥µ∂∑∏π∫ªºΩæø¿¡¬√ƒ≈∆\xAB\xBB…" ++
      "\xA0ÀÃÕŒœ–—“”‘’÷◊ÿŸĞğİıŞş‡·‚„‰ÂÊÁËÈÍÎÏÌÓÔ\uF8FFÒÚÛÙ\uF8A0\u02C6\u02DC\xAF\u02D8\u02D9" ++
      "\u02DA\xB8\u02DD\u02DB\u02C7"⟩,
    ⟨["palmos"],
      "€\x81‚ƒ„…†‡\u02C6‰Š‹Œ♦♣♥♠‘’“”•–—\u02DC™š\x9Bœ\x9D\x9EŸ\xA0¡¢£¤¥¦§\xA8©ª\xAB¬\xAD®\xAF°±" ++
      "²³\xB4µ¶·\xB8¹º\xBB¼½¾¿ÀÁÂÃÄÅÆÇÈÉÊËÌÍÎÏÐÑÒÓÔÕÖ×ØÙÚÛÜÝÞßàáâãäåæçèéêëìíîïðñòóôõö÷øùúûüýþÿ"⟩]

/-- Names of ASCII, and of encodings that have no characters beyond it in single bytes. -/
def asciiNames : List String :=
  [
    "ansi_x3.4_1968", "ansi_x3.4_1986", "ansi_x3_4_1968", "ascii", "cp367", "cp65001", "csascii",
    "csiso2022jp", "hz", "hz_gb", "hz_gb_2312", "hzgb", "ibm367", "iso2022_jp", "iso2022_jp_1",
    "iso2022_jp_2", "iso2022_jp_2004", "iso2022_jp_3", "iso2022_jp_ext", "iso2022jp",
    "iso2022jp_1", "iso2022jp_2", "iso2022jp_2004", "iso2022jp_3", "iso2022jp_ext", "iso646_us",
    "iso_2022_jp", "iso_2022_jp_1", "iso_2022_jp_2", "iso_2022_jp_2004", "iso_2022_jp_3",
    "iso_2022_jp_ext", "iso_646.irv_1991", "iso_ir_6", "u8", "us", "us_ascii", "utf", "utf8",
    "utf8_ucs2", "utf8_ucs4", "utf_8", "utf_8_sig"]

/-- Names of Latin-1. -/
def latin1Names : List String :=
  [
    "cp819", "csisolatin1", "ibm819", "iso8859", "iso8859_1", "iso_8859_1", "iso_8859_1_1987",
    "iso_ir_100", "l1", "latin", "latin1", "latin_1"]

/-- Names of encodings that write some characters as several bytes. -/
def multiByteNames : List String :=
  [
    "big5", "big5_hkscs", "big5_tw", "big5hkscs", "chinese", "cp1361", "cp932", "cp936", "cp949",
    "cp950", "csbig5", "csiso2022kr", "csiso58gb231280", "csshiftjis", "euc_cn", "euc_jis2004",
    "euc_jis_2004", "euc_jisx0213", "euc_jp", "euc_kr", "euccn", "eucgb2312_cn", "eucjis2004",
    "eucjisx0213", "eucjp", "euckr", "gb18030", "gb18030_2000", "gb2312", "gb2312_1980",
    "gb2312_80", "gbk", "hkscs", "iso2022_kr", "iso2022kr", "iso_2022_kr", "iso_ir_58",
    "jisx0213", "johab", "korean", "ks_c_5601", "ks_c_5601_1987", "ks_x_1001", "ksc5601",
    "ksx1001", "ms1361", "ms932", "ms936", "ms949", "ms950", "ms_kanji", "mskanji", "s_jis",
    "s_jis_2004", "s_jisx0213", "shift_jis", "shift_jis_2004", "shift_jisx0213", "shiftjis",
    "shiftjis2004", "shiftjisx0213", "sjis", "sjis_2004", "sjisx0213", "u16", "u32", "u7",
    "u_jis", "uhc", "ujis", "unicode_1_1_utf_7", "unicodebigunmarked", "unicodelittleunmarked",
    "utf16", "utf32", "utf7", "utf_16", "utf_16_be", "utf_16_le", "utf_16be", "utf_16le",
    "utf_32", "utf_32_be", "utf_32_le", "utf_32be", "utf_32le", "utf_7", "x_mac_japanese",
    "x_mac_korean", "x_mac_simp_chinese", "x_mac_trad_chinese"]

/-- Names of encodings whose lower half is not ASCII. -/
def foreignNames : List String :=
  [
    "cp037", "cp1026", "cp1140", "cp273", "cp424", "cp500", "cp864", "cp875", "csibm037",
    "csibm1026", "csibm273", "csibm424", "csibm500", "csibm864", "ebcdic_cp_be", "ebcdic_cp_ca",
    "ebcdic_cp_ch", "ebcdic_cp_he", "ebcdic_cp_nl", "ebcdic_cp_us", "ebcdic_cp_wt", "ibm037",
    "ibm039", "ibm1026", "ibm1140", "ibm273", "ibm424", "ibm500", "ibm864", "mac_arabic",
    "mac_farsi"]

end ConfigLocator
