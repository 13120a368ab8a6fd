import Remittance.Text.Ranges

/-!
# Composition of characters

A letter with a mark behind it can be one character. In the normal form of a text all that can be
one character is one, and the marks that are left stand in the order of their classes. The
syllables of Hangul are taken as they are.
-/

set_option autoImplicit false

namespace Remittance.Composition

/-- The classes of marks, from 0x300 to 0x748. -/
def classesA : List (Nat × Nat × Nat) := [
  (0x300, 0x314, 230), (0x315, 0x315, 232), (0x316, 0x319, 220), (0x31A, 0x31A, 232),
  (0x31B, 0x31B, 216), (0x31C, 0x320, 220), (0x321, 0x322, 202), (0x323, 0x326, 220),
  (0x327, 0x328, 202), (0x329, 0x333, 220), (0x334, 0x338, 1), (0x339, 0x33C, 220),
  (0x33D, 0x344, 230), (0x345, 0x345, 240), (0x346, 0x346, 230), (0x347, 0x349, 220),
  (0x34A, 0x34C, 230), (0x34D, 0x34E, 220), (0x350, 0x352, 230), (0x353, 0x356, 220),
  (0x357, 0x357, 230), (0x358, 0x358, 232), (0x359, 0x35A, 220), (0x35B, 0x35B, 230),
  (0x35C, 0x35C, 233), (0x35D, 0x35E, 234), (0x35F, 0x35F, 233), (0x360, 0x361, 234),
  (0x362, 0x362, 233), (0x363, 0x36F, 230), (0x483, 0x487, 230), (0x591, 0x591, 220),
  (0x592, 0x595, 230), (0x596, 0x596, 220), (0x597, 0x599, 230), (0x59A, 0x59A, 222),
  (0x59B, 0x59B, 220), (0x59C, 0x5A1, 230), (0x5A2, 0x5A7, 220), (0x5A8, 0x5A9, 230),
  (0x5AA, 0x5AA, 220), (0x5AB, 0x5AC, 230), (0x5AD, 0x5AD, 222), (0x5AE, 0x5AE, 228),
  (0x5AF, 0x5AF, 230), (0x5B0, 0x5B0, 10), (0x5B1, 0x5B1, 11), (0x5B2, 0x5B2, 12),
  (0x5B3, 0x5B3, 13), (0x5B4, 0x5B4, 14), (0x5B5, 0x5B5, 15), (0x5B6, 0x5B6, 16),
  (0x5B7, 0x5B7, 17), (0x5B8, 0x5B8, 18), (0x5B9, 0x5BA, 19), (0x5BB, 0x5BB, 20),
  (0x5BC, 0x5BC, 21), (0x5BD, 0x5BD, 22), (0x5BF, 0x5BF, 23), (0x5C1, 0x5C1, 24),
  (0x5C2, 0x5C2, 25), (0x5C4, 0x5C4, 230), (0x5C5, 0x5C5, 220), (0x5C7, 0x5C7, 18),
  (0x610, 0x617, 230), (0x618, 0x618, 30), (0x619, 0x619, 31), (0x61A, 0x61A, 32),
  (0x64B, 0x64B, 27), (0x64C, 0x64C, 28), (0x64D, 0x64D, 29), (0x64E, 0x64E, 30),
  (0x64F, 0x64F, 31), (0x650, 0x650, 32), (0x651, 0x651, 33), (0x652, 0x652, 34),
  (0x653, 0x654, 230), (0x655, 0x656, 220), (0x657, 0x65B, 230), (0x65C, 0x65C, 220),
  (0x65D, 0x65E, 230), (0x65F, 0x65F, 220), (0x670, 0x670, 35), (0x6D6, 0x6DC, 230),
  (0x6DF, 0x6E2, 230), (0x6E3, 0x6E3, 220), (0x6E4, 0x6E4, 230), (0x6E7, 0x6E8, 230),
  (0x6EA, 0x6EA, 220), (0x6EB, 0x6EC, 230), (0x6ED, 0x6ED, 220), (0x711, 0x711, 36),
  (0x730, 0x730, 230), (0x731, 0x731, 220), (0x732, 0x733, 230), (0x734, 0x734, 220),
  (0x735, 0x736, 230), (0x737, 0x739, 220), (0x73A, 0x73A, 230), (0x73B, 0x73C, 220),
  (0x73D, 0x73D, 230), (0x73E, 0x73E, 220), (0x73F, 0x741, 230), (0x742, 0x742, 220),
  (0x743, 0x743, 230), (0x744, 0x744, 220), (0x745, 0x745, 230), (0x746, 0x746, 220),
  (0x747, 0x747, 230), (0x748, 0x748, 220)]

/-- The classes of marks, from 0x749 to 0x1C37. -/
def classesB : List (Nat × Nat × Nat) := [
  (0x749, 0x74A, 230), (0x7EB, 0x7F1, 230), (0x7F2, 0x7F2, 220), (0x7F3, 0x7F3, 230),
  (0x7FD, 0x7FD, 220), (0x816, 0x819, 230), (0x81B, 0x823, 230), (0x825, 0x827, 230),
  (0x829, 0x82D, 230), (0x859, 0x85B, 220), (0x898, 0x898, 230), (0x899, 0x89B, 220),
  (0x89C, 0x89F, 230), (0x8CA, 0x8CE, 230), (0x8CF, 0x8D3, 220), (0x8D4, 0x8E1, 230),
  (0x8E3, 0x8E3, 220), (0x8E4, 0x8E5, 230), (0x8E6, 0x8E6, 220), (0x8E7, 0x8E8, 230),
  (0x8E9, 0x8E9, 220), (0x8EA, 0x8EC, 230), (0x8ED, 0x8EF, 220), (0x8F0, 0x8F0, 27),
  (0x8F1, 0x8F1, 28), (0x8F2, 0x8F2, 29), (0x8F3, 0x8F5, 230), (0x8F6, 0x8F6, 220),
  (0x8F7, 0x8F8, 230), (0x8F9, 0x8FA, 220), (0x8FB, 0x8FF, 230), (0x93C, 0x93C, 7),
  (0x94D, 0x94D, 9), (0x951, 0x951, 230), (0x952, 0x952, 220), (0x953, 0x954, 230),
  (0x9BC, 0x9BC, 7), (0x9CD, 0x9CD, 9), (0x9FE, 0x9FE, 230), (0xA3C, 0xA3C, 7), (0xA4D, 0xA4D, 9),
  (0xABC, 0xABC, 7), (0xACD, 0xACD, 9), (0xB3C, 0xB3C, 7), (0xB4D, 0xB4D, 9), (0xBCD, 0xBCD, 9),
  (0xC3C, 0xC3C, 7), (0xC4D, 0xC4D, 9), (0xC55, 0xC55, 84), (0xC56, 0xC56, 91), (0xCBC, 0xCBC, 7),
  (0xCCD, 0xCCD, 9), (0xD3B, 0xD3C, 9), (0xD4D, 0xD4D, 9), (0xDCA, 0xDCA, 9), (0xE38, 0xE39, 103),
  (0xE3A, 0xE3A, 9), (0xE48, 0xE4B, 107), (0xEB8, 0xEB9, 118), (0xEBA, 0xEBA, 9),
  (0xEC8, 0xECB, 122), (0xF18, 0xF19, 220), (0xF35, 0xF35, 220), (0xF37, 0xF37, 220),
  (0xF39, 0xF39, 216), (0xF71, 0xF71, 129), (0xF72, 0xF72, 130), (0xF74, 0xF74, 132),
  (0xF7A, 0xF7D, 130), (0xF80, 0xF80, 130), (0xF82, 0xF83, 230), (0xF84, 0xF84, 9),
  (0xF86, 0xF87, 230), (0xFC6, 0xFC6, 220), (0x1037, 0x1037, 7), (0x1039, 0x103A, 9),
  (0x108D, 0x108D, 220), (0x135D, 0x135F, 230), (0x1714, 0x1715, 9), (0x1734, 0x1734, 9),
  (0x17D2, 0x17D2, 9), (0x17DD, 0x17DD, 230), (0x18A9, 0x18A9, 228), (0x1939, 0x1939, 222),
  (0x193A, 0x193A, 230), (0x193B, 0x193B, 220), (0x1A17, 0x1A17, 230), (0x1A18, 0x1A18, 220),
  (0x1A60, 0x1A60, 9), (0x1A75, 0x1A7C, 230), (0x1A7F, 0x1A7F, 220), (0x1AB0, 0x1AB4, 230),
  (0x1AB5, 0x1ABA, 220), (0x1ABB, 0x1ABC, 230), (0x1ABD, 0x1ABD, 220), (0x1ABF, 0x1AC0, 220),
  (0x1AC1, 0x1AC2, 230), (0x1AC3, 0x1AC4, 220), (0x1AC5, 0x1AC9, 230), (0x1ACA, 0x1ACA, 220),
  (0x1ACB, 0x1ACE, 230), (0x1B34, 0x1B34, 7), (0x1B44, 0x1B44, 9), (0x1B6B, 0x1B6B, 230),
  (0x1B6C, 0x1B6C, 220), (0x1B6D, 0x1B73, 230), (0x1BAA, 0x1BAB, 9), (0x1BE6, 0x1BE6, 7),
  (0x1BF2, 0x1BF3, 9), (0x1C37, 0x1C37, 7)]

/-- The classes of marks, from 0x1CD0 to 0x112E9. -/
def classesC : List (Nat × Nat × Nat) := [
  (0x1CD0, 0x1CD2, 230), (0x1CD4, 0x1CD4, 1), (0x1CD5, 0x1CD9, 220), (0x1CDA, 0x1CDB, 230),
  (0x1CDC, 0x1CDF, 220), (0x1CE0, 0x1CE0, 230), (0x1CE2, 0x1CE8, 1), (0x1CED, 0x1CED, 220),
  (0x1CF4, 0x1CF4, 230), (0x1CF8, 0x1CF9, 230), (0x1DC0, 0x1DC1, 230), (0x1DC2, 0x1DC2, 220),
  (0x1DC3, 0x1DC9, 230), (0x1DCA, 0x1DCA, 220), (0x1DCB, 0x1DCC, 230), (0x1DCD, 0x1DCD, 234),
  (0x1DCE, 0x1DCE, 214), (0x1DCF, 0x1DCF, 220), (0x1DD0, 0x1DD0, 202), (0x1DD1, 0x1DF5, 230),
  (0x1DF6, 0x1DF6, 232), (0x1DF7, 0x1DF8, 228), (0x1DF9, 0x1DF9, 220), (0x1DFA, 0x1DFA, 218),
  (0x1DFB, 0x1DFB, 230), (0x1DFC, 0x1DFC, 233), (0x1DFD, 0x1DFD, 220), (0x1DFE, 0x1DFE, 230),
  (0x1DFF, 0x1DFF, 220), (0x20D0, 0x20D1, 230), (0x20D2, 0x20D3, 1), (0x20D4, 0x20D7, 230),
  (0x20D8, 0x20DA, 1), (0x20DB, 0x20DC, 230), (0x20E1, 0x20E1, 230), (0x20E5, 0x20E6, 1),
  (0x20E7, 0x20E7, 230), (0x20E8, 0x20E8, 220), (0x20E9, 0x20E9, 230), (0x20EA, 0x20EB, 1),
  (0x20EC, 0x20EF, 220), (0x20F0, 0x20F0, 230), (0x2CEF, 0x2CF1, 230), (0x2D7F, 0x2D7F, 9),
  (0x2DE0, 0x2DFF, 230), (0x302A, 0x302A, 218), (0x302B, 0x302B, 228), (0x302C, 0x302C, 232),
  (0x302D, 0x302D, 222), (0x302E, 0x302F, 224), (0x3099, 0x309A, 8), (0xA66F, 0xA66F, 230),
  (0xA674, 0xA67D, 230), (0xA69E, 0xA69F, 230), (0xA6F0, 0xA6F1, 230), (0xA806, 0xA806, 9),
  (0xA82C, 0xA82C, 9), (0xA8C4, 0xA8C4, 9), (0xA8E0, 0xA8F1, 230), (0xA92B, 0xA92D, 220),
  (0xA953, 0xA953, 9), (0xA9B3, 0xA9B3, 7), (0xA9C0, 0xA9C0, 9), (0xAAB0, 0xAAB0, 230),
  (0xAAB2, 0xAAB3, 230), (0xAAB4, 0xAAB4, 220), (0xAAB7, 0xAAB8, 230), (0xAABE, 0xAABF, 230),
  (0xAAC1, 0xAAC1, 230), (0xAAF6, 0xAAF6, 9), (0xABED, 0xABED, 9), (0xFB1E, 0xFB1E, 26),
  (0xFE20, 0xFE26, 230), (0xFE27, 0xFE2D, 220), (0xFE2E, 0xFE2F, 230), (0x101FD, 0x101FD, 220),
  (0x102E0, 0x102E0, 220), (0x10376, 0x1037A, 230), (0x10A0D, 0x10A0D, 220),
  (0x10A0F, 0x10A0F, 230), (0x10A38, 0x10A38, 230), (0x10A39, 0x10A39, 1), (0x10A3A, 0x10A3A, 220),
  (0x10A3F, 0x10A3F, 9), (0x10AE5, 0x10AE5, 230), (0x10AE6, 0x10AE6, 220), (0x10D24, 0x10D27, 230),
  (0x10EAB, 0x10EAC, 230), (0x10F46, 0x10F47, 220), (0x10F48, 0x10F4A, 230),
  (0x10F4B, 0x10F4B, 220), (0x10F4C, 0x10F4C, 230), (0x10F4D, 0x10F50, 220),
  (0x10F82, 0x10F82, 230), (0x10F83, 0x10F83, 220), (0x10F84, 0x10F84, 230),
  (0x10F85, 0x10F85, 220), (0x11046, 0x11046, 9), (0x11070, 0x11070, 9), (0x1107F, 0x1107F, 9),
  (0x110B9, 0x110B9, 9), (0x110BA, 0x110BA, 7), (0x11100, 0x11102, 230), (0x11133, 0x11134, 9),
  (0x11173, 0x11173, 7), (0x111C0, 0x111C0, 9), (0x111CA, 0x111CA, 7), (0x11235, 0x11235, 9),
  (0x11236, 0x11236, 7), (0x112E9, 0x112E9, 7)]

/-- The classes of marks, from 0x112EA to 0x1E94A. -/
def classesD : List (Nat × Nat × Nat) := [
  (0x112EA, 0x112EA, 9), (0x1133B, 0x1133C, 7), (0x1134D, 0x1134D, 9), (0x11366, 0x11374, 230),
  (0x11442, 0x11442, 9), (0x11446, 0x11446, 7), (0x1145E, 0x1145E, 230), (0x114C2, 0x114C2, 9),
  (0x114C3, 0x114C3, 7), (0x115BF, 0x115BF, 9), (0x115C0, 0x115C0, 7), (0x1163F, 0x1163F, 9),
  (0x116B6, 0x116B6, 9), (0x116B7, 0x116B7, 7), (0x1172B, 0x1172B, 9), (0x11839, 0x11839, 9),
  (0x1183A, 0x1183A, 7), (0x1193D, 0x1193E, 9), (0x11943, 0x11943, 7), (0x119E0, 0x119E0, 9),
  (0x11A34, 0x11A34, 9), (0x11A47, 0x11A47, 9), (0x11A99, 0x11A99, 9), (0x11C3F, 0x11C3F, 9),
  (0x11D42, 0x11D42, 7), (0x11D44, 0x11D45, 9), (0x11D97, 0x11D97, 9), (0x16AF0, 0x16AF4, 1),
  (0x16B30, 0x16B36, 230), (0x16FF0, 0x16FF1, 6), (0x1BC9E, 0x1BC9E, 1), (0x1D165, 0x1D166, 216),
  (0x1D167, 0x1D169, 1), (0x1D16D, 0x1D16D, 226), (0x1D16E, 0x1D172, 216), (0x1D17B, 0x1D182, 220),
  (0x1D185, 0x1D189, 230), (0x1D18A, 0x1D18B, 220), (0x1D1AA, 0x1D1AD, 230),
  (0x1D242, 0x1D244, 230), (0x1E000, 0x1E02A, 230), (0x1E130, 0x1E136, 230),
  (0x1E2AE, 0x1E2AE, 230), (0x1E2EC, 0x1E2EF, 230), (0x1E8D0, 0x1E8D6, 220),
  (0x1E944, 0x1E949, 230), (0x1E94A, 0x1E94A, 7)]

/-- The classes of marks: the first and the last code point of a run, and its class. Marks of one
class keep their order. -/
def classes : List (Nat × Nat × Nat) := classesA ++ classesB ++ classesC ++ classesD

/-- The marks with the letters before them, and with the characters that they make together. -/
def pairs : List (Nat × String × String) := [
  (0x300, "AEINOUWYaeinouwy¨ÂÊÔÜâêôüĂăĒēŌ", "ÀÈÌǸÒÙẀỲàèìǹòùẁỳ῭ẦỀỒǛầềồǜẰằḔḕṐ"),
  (0x300, "ōƠơƯưΑΕΗΙΟΥΩαεηιουωϊϋЕИеиἀἁἈἉἐ", "ṑỜờỪừᾺῈῊῚῸῪῺὰὲὴὶὸὺὼῒῢЀЍѐѝἂἃἊἋἒ"),
  (0x300, "ἑἘἙἠἡἨἩἰἱἸἹὀὁὈὉὐὑὙὠὡὨὩ᾿῾", "ἓἚἛἢἣἪἫἲἳἺἻὂὃὊὋὒὓὛὢὣὪὫ῍῝"),
  (0x301, "ACEGIKLMNOPRSUWYZacegiklmnoprs", "ÁĆÉǴÍḰĹḾŃÓṔŔŚÚẂÝŹáćéǵíḱĺḿńóṕŕś"),
  (0x301, "uwyz¨ÂÅÆÇÊÏÔÕØÜâåæçêïôõøüĂăĒēŌ", "úẃýź΅ẤǺǼḈẾḮỐṌǾǗấǻǽḉếḯốṍǿǘẮắḖḗṒ"),
  (0x301, "ōŨũƠơƯưΑΕΗΙΟΥΩαεηιουωϊϋϒГКгкἀἁ", "ṓṸṹỚớỨứΆΈΉΊΌΎΏάέήίόύώΐΰϓЃЌѓќἄἅ"),
  (0x301, "ἈἉἐἑἘἙἠἡἨἩἰἱἸἹὀὁὈὉὐὑὙὠὡὨὩ᾿῾", "ἌἍἔἕἜἝἤἥἬἭἴἵἼἽὄὅὌὍὔὕὝὤὥὬὭ῎῞"),
  (0x302, "ACEGHIJOSUWYZaceghijosuwyzẠạẸẹ", "ÂĈÊĜĤÎĴÔŜÛŴŶẐâĉêĝĥîĵôŝûŵŷẑẬậỆệ"),
  (0x302, "Ọọ", "Ộộ"),
  (0x303, "AEINOUVYaeinouvyÂÊÔâêôĂăƠơƯư", "ÃẼĨÑÕŨṼỸãẽĩñõũṽỹẪỄỖẫễỗẴẵỠỡỮữ"),
  (0x304, "AEGIOUYaegiouyÄÆÕÖÜäæõöüǪǫȦȧȮȯ", "ĀĒḠĪŌŪȲāēḡīōūȳǞǢȬȪǕǟǣȭȫǖǬǭǠǡȰȱ"),
  (0x304, "ΑΙΥαιυИУиуḶḷṚṛ", "ᾹῙῩᾱῑῡӢӮӣӯḸḹṜṝ"),
  (0x306, "AEGIOUaegiouȨȩΑΙΥαιυАЕЖИУаежиу", "ĂĔĞĬŎŬăĕğĭŏŭḜḝᾸῘῨᾰῐῠӐӖӁЙЎӑӗӂйў"),
  (0x306, "Ạạ", "Ặặ"),
  (0x307, "ABCDEFGHIMNOPRSTWXYZabcdefghmn", "ȦḂĊḊĖḞĠḢİṀṄȮṖṘṠṪẆẊẎŻȧḃċḋėḟġḣṁṅ"),
  (0x307, "oprstwxyzŚśŠšſṢṣ", "ȯṗṙṡṫẇẋẏżṤṥṦṧẛṨṩ"),
  (0x308, "AEHIOUWXYaehiotuwxyÕõŪūΙΥιυϒІА", "ÄËḦÏÖÜẄẌŸäëḧïöẗüẅẍÿṎṏṺṻΪΫϊϋϔЇӒ"),
  (0x308, "ЕЖЗИОУЧЫЭаежзиоучыэіӘәӨө", "ЁӜӞӤӦӰӴӸӬӓёӝӟӥӧӱӵӹӭїӚӛӪӫ"),
  (0x309, "AEIOUYaeiouyÂÊÔâêôĂăƠơƯư", "ẢẺỈỎỦỶảẻỉỏủỷẨỂỔẩểổẲẳỞởỬử"),
  (0x30A, "AUauwy", "ÅŮåůẘẙ"),
  (0x30B, "OUouУу", "ŐŰőűӲӳ"),
  (0x30C, "ACDEGHIKLNORSTUZacdeghijklnors", "ǍČĎĚǦȞǏǨĽŇǑŘŠŤǓŽǎčďěǧȟǐǰǩľňǒřš"),
  (0x30C, "tuzÜüƷʒ", "ťǔžǙǚǮǯ"),
  (0x30F, "AEIORUaeioruѴѵ", "ȀȄȈȌȐȔȁȅȉȍȑȕѶѷ"),
  (0x311, "AEIORUaeioru", "ȂȆȊȎȒȖȃȇȋȏȓȗ"),
  (0x313, "ΑΕΗΙΟΩαεηιορυω", "ἈἘἨἸὈὨἀἐἠἰὀῤὐὠ"),
  (0x314, "ΑΕΗΙΟΡΥΩαεηιορυω", "ἉἙἩἹὉῬὙὩἁἑἡἱὁῥὑὡ"),
  (0x31B, "OUou", "ƠƯơư"),
  (0x323, "ABDEHIKLMNORSTUVWYZabdehiklmno", "ẠḄḌẸḤỊḲḶṂṆỌṚṢṬỤṾẈỴẒạḅḍẹḥịḳḷṃṇọ"),
  (0x323, "rstuvwyzƠơƯư", "ṛṣṭụṿẉỵẓỢợỰự"),
  (0x324, "Uu", "Ṳṳ"),
  (0x325, "Aa", "Ḁḁ"),
  (0x326, "STst", "ȘȚșț"),
  (0x327, "CDEGHKLNRSTcdeghklnrst", "ÇḐȨĢḨĶĻŅŖŞŢçḑȩģḩķļņŗşţ"),
  (0x328, "AEIOUaeiou", "ĄĘĮǪŲąęįǫų"),
  (0x32D, "DELNTUdelntu", "ḒḘḼṊṰṶḓḙḽṋṱṷ"),
  (0x32E, "Hh", "Ḫḫ"),
  (0x330, "EIUeiu", "ḚḬṴḛḭṵ"),
  (0x331, "BDKLNRTZbdhklnrtz", "ḆḎḴḺṈṞṮẔḇḏẖḵḻṉṟṯẕ"),
  (0x338, "<=>←→↔⇐⇒⇔∃∈∋∣∥∼≃≅≈≍≡≤≥≲≳≶≷≺≻≼≽", "≮≠≯↚↛↮⇍⇏⇎∄∉∌∤∦≁≄≇≉≭≢≰≱≴≵≸≹⊀⊁⋠⋡"),
  (0x338, "⊂⊃⊆⊇⊑⊒⊢⊨⊩⊫⊲⊳⊴⊵", "⊄⊅⊈⊉⋢⋣⊬⊭⊮⊯⋪⋫⋬⋭"),
  (0x342, "¨αηιυωϊϋἀἁἈἉἠἡἨἩἰἱἸἹὐὑὙὠὡὨὩ᾿῾", "῁ᾶῆῖῦῶῗῧἆἇἎἏἦἧἮἯἶἷἾἿὖὗὟὦὧὮὯ῏῟"),
  (0x345, "ΑΗΩάήαηωώἀἁἂἃἄἅἆἇἈἉἊἋἌἍἎἏἠἡἢἣἤ", "ᾼῌῼᾴῄᾳῃῳῴᾀᾁᾂᾃᾄᾅᾆᾇᾈᾉᾊᾋᾌᾍᾎᾏᾐᾑᾒᾓᾔ"),
  (0x345, "ἥἦἧἨἩἪἫἬἭἮἯὠὡὢὣὤὥὦὧὨὩὪὫὬὭὮὯὰὴὼ", "ᾕᾖᾗᾘᾙᾚᾛᾜᾝᾞᾟᾠᾡᾢᾣᾤᾥᾦᾧᾨᾩᾪᾫᾬᾭᾮᾯᾲῂῲ"),
  (0x345, "ᾶῆῶ", "ᾷῇῷ"),
  (0x653, "\u0627", "\u0622"),
  (0x654, "\u0627\u0648\u064A\u06C1\u06D2\u06D5", "\u0623\u0624\u0626\u06C2\u06D3\u06C0"),
  (0x655, "\u0627", "\u0625"),
  (0x93C, "नरळ", "ऩऱऴ"),
  (0x9BE, "\u09C7", "\u09CB"),
  (0x9D7, "\u09C7", "\u09CC"),
  (0xB3E, "\u0B47", "\u0B4B"),
  (0xB56, "\u0B47", "\u0B48"),
  (0xB57, "\u0B47", "\u0B4C"),
  (0xBBE, "\u0BC6\u0BC7", "\u0BCA\u0BCB"),
  (0xBD7, "ஒ\u0BC6", "ஔ\u0BCC"),
  (0xC56, "\u0C46", "\u0C48"),
  (0xCC2, "\u0CC6", "\u0CCA"),
  (0xCD5, "\u0CBF\u0CC6\u0CCA", "\u0CC0\u0CC7\u0CCB"),
  (0xCD6, "\u0CC6", "\u0CC8"),
  (0xD3E, "\u0D46\u0D47", "\u0D4A\u0D4B"),
  (0xD57, "\u0D46", "\u0D4C"),
  (0xDCA, "\u0DD9\u0DDC", "\u0DDA\u0DDD"),
  (0xDCF, "\u0DD9", "\u0DDC"),
  (0xDDF, "\u0DD9", "\u0DDE"),
  (0x102E, "ဥ", "ဦ"),
  (0x1B35, "ᬅᬇᬉᬋᬍᬑ\u1B3A\u1B3C\u1B3E\u1B3F\u1B42", "ᬆᬈᬊᬌᬎᬒ\u1B3B\u1B3D\u1B40\u1B41\u1B43"),
  (0x3099, "うかきくけこさしすせそたちつてとはひふへほゝウカキクケコサシ", "ゔがぎぐげござじずぜぞだぢづでどばびぶべぼゞヴガギグゲゴザジ"),
  (0x3099, "スセソタチツテトハヒフヘホワヰヱヲヽ", "ズゼゾダヂヅデドバビブベボヷヸヹヺヾ"),
  (0x309A, "はひふへほハヒフヘホ", "ぱぴぷぺぽパピプペポ")]

/-- A mark, the letter before it, and the character that they make together, for the scripts
beyond the first plane. -/
def farPairs : List (Nat × Nat × Nat) := [
  (0x110BA, 0x11099, 0x1109A), (0x110BA, 0x1109B, 0x1109C), (0x110BA, 0x110A5, 0x110AB),
  (0x11127, 0x11131, 0x1112E), (0x11127, 0x11132, 0x1112F), (0x1133E, 0x11347, 0x1134B),
  (0x11357, 0x11347, 0x1134C), (0x114B0, 0x114B9, 0x114BC), (0x114BA, 0x114B9, 0x114BB),
  (0x114BD, 0x114B9, 0x114BE), (0x115AF, 0x115B8, 0x115BA), (0x115AF, 0x115B9, 0x115BB),
  (0x11930, 0x11935, 0x11938)]

/-- The class of a character, which is zero unless it is a mark that can change places. -/
def classOf (c : Char) : Nat :=
  match classes.find? fun r => r.1 ≤ c.toNat && c.toNat ≤ r.2.1 with
  | some r => r.2.2
  | none => 0

/-- The character at the place of another one in a second text. -/
def aligned? (c : Char) (keys values : String) : Option Char :=
  ((keys.toList.zip values.toList).find? fun p => p.1 == c).map Prod.snd

/-- The character that a letter and the mark behind it make together. -/
def joined? (letter mark : Char) : Option Char :=
  (pairs.filter fun r => r.1 == mark.toNat).findSome? (fun r => aligned? letter r.2.1 r.2.2) <|>
    (farPairs.find? fun r => r.1 == mark.toNat && r.2.1 == letter.toNat).map fun r =>
      Char.ofNat r.2.2

/-- The letter and the mark that a character is made of. -/
def parted? (c : Char) : Option (Char × Char) :=
  pairs.findSome? (fun r => (aligned? c r.2.2 r.2.1).map fun letter => (letter, Char.ofNat r.1)) <|>
    (farPairs.find? fun r => r.2.2 == c.toNat).map fun r => (Char.ofNat r.2.1, Char.ofNat r.1)

/-- The most marks that a character is made of. -/
def maxMarks : Nat := 3

/-- A character as a letter and its marks. -/
def taken : (fuel : Nat) → Char → List Char
  | 0, c => [c]
  | fuel + 1, c =>
    match parted? c with
    | some (letter, mark) => taken fuel letter ++ [mark]
    | none => [c]

/-- A character put behind others, of which the last one comes first; a mark goes before marks of
higher classes. -/
def place (before : List Char) (c : Char) : List Char :=
  match before with
  | [] => [c]
  | d :: rest =>
    if classOf c ≠ 0 ∧ classOf c < classOf d then d :: place rest c else c :: d :: rest

/-- Characters with their marks in order. -/
def ordered (cs : List Char) : List Char := (cs.foldl place []).reverse

/-- A text on the way to its normal form: what is behind it, the last letter, if there is one, and
the marks that stay behind the letter, each the last one first. -/
structure Progress where
  done : List Char := []
  letter : Option Char := none
  marks : List Char := []

/-- The characters of a text on the way, the last one first. -/
def Progress.all (p : Progress) : List Char := p.marks ++ p.letter.toList ++ p.done

/-- Whether a character can reach the last letter: no mark stands between, or only ones of lower
classes. -/
def Progress.reaches (p : Progress) (c : Char) : Bool :=
  match p.marks with
  | [] => true
  | m :: _ => decide (classOf m < classOf c)

/-- A text on the way with a further character, which joins the last letter if it can. -/
def Progress.push (p : Progress) (c : Char) : Progress :=
  let joined := if p.reaches c then p.letter.bind fun letter => joined? letter c else none
  match joined with
  | some letter => { p with letter := some letter }
  | none =>
    if classOf c = 0 then { done := p.all, letter := some c } else { p with marks := c :: p.marks }

/-- The normal form of characters. -/
def normal (cs : List Char) : List Char :=
  ((ordered (cs.flatMap (taken maxMarks))).foldl Progress.push {}).all.reverse

/-- Whether characters are in normal form. -/
def isNormal (cs : List Char) : Bool := normal cs == cs

end Remittance.Composition
