/-
  EngineBindings/Text/Decomposition.lean
  ======================================
  **What characters are made of.**

  Many characters of Unicode are only another way to write others: a ligature stands for its
  letters, a letter with an accent for the letter and a mark, a wide letter for the plain one.
  Taken apart as far as possible, with the marks of each letter in the order of their classes,
  two names are the same text exactly when they are two ways to write one name.

  The tables hold the characters of names in Unicode 14.
-/

namespace EngineBindings.Text

/-! ### Tables -/

/-- Rows of consecutive characters: the code point of the first, how many characters each of
    them is made of, and what they are made of, one after the other. -/
def decompositions : List (Nat × Nat × String) :=
  [(0xAA, 1, "a"), (0xB5, 1, "μ"), (0xBA, 1, "o"),
   (0xC0, 2, "A\u0300A\u0301A\u0302A\u0303A\u0308A\u030a"),
   (0xC7, 2, "C\u0327E\u0300E\u0301E\u0302E\u0308I\u0300I\u0301I\u0302I\u0308"),
   (0xD1, 2, "N\u0303O\u0300O\u0301O\u0302O\u0303O\u0308"),
   (0xD9, 2, "U\u0300U\u0301U\u0302U\u0308Y\u0301"),
   (0xE0, 2, "a\u0300a\u0301a\u0302a\u0303a\u0308a\u030a"),
   (0xE7, 2, "c\u0327e\u0300e\u0301e\u0302e\u0308i\u0300i\u0301i\u0302i\u0308"),
   (0xF1, 2, "n\u0303o\u0300o\u0301o\u0302o\u0303o\u0308"),
   (0xF9, 2, "u\u0300u\u0301u\u0302u\u0308y\u0301"),
   (0xFF, 2, "y\u0308A\u0304a\u0304A\u0306a\u0306A\u0328a\u0328C\u0301c\u0301C\u0302c\u0302"),
   (0x10A, 2, "C\u0307c\u0307C\u030cc\u030cD\u030cd\u030c"),
   (0x112, 2, "E\u0304e\u0304E\u0306e\u0306E\u0307e\u0307E\u0328e\u0328E\u030ce\u030cG\u0302"),
   (0x11D, 2, "g\u0302G\u0306g\u0306G\u0307g\u0307G\u0327g\u0327H\u0302h\u0302"),
   (0x128, 2, "I\u0303i\u0303I\u0304i\u0304I\u0306i\u0306I\u0328i\u0328I\u0307"),
   (0x132, 2, "IJijJ\u0302j\u0302K\u0327k\u0327"),
   (0x139, 2, "L\u0301l\u0301L\u0327l\u0327L\u030cl\u030cL·l·"),
   (0x143, 2, "N\u0301n\u0301N\u0327n\u0327N\u030cn\u030cʼn"),
   (0x14C, 2, "O\u0304o\u0304O\u0306o\u0306O\u030bo\u030b"),
   (0x154, 2, "R\u0301r\u0301R\u0327r\u0327R\u030cr\u030cS\u0301s\u0301S\u0302s\u0302S\u0327"),
   (0x15F, 2, "s\u0327S\u030cs\u030cT\u0327t\u0327T\u030ct\u030c"),
   (0x168, 2, "U\u0303u\u0303U\u0304u\u0304U\u0306u\u0306U\u030au\u030aU\u030bu\u030bU\u0328"),
   (0x173, 2, "u\u0328W\u0302w\u0302Y\u0302y\u0302Y\u0308Z\u0301z\u0301Z\u0307z\u0307Z\u030c"),
   (0x17E, 2, "z\u030c"), (0x17F, 1, "s"), (0x1A0, 2, "O\u031bo\u031b"),
   (0x1AF, 2, "U\u031bu\u031b"), (0x1C4, 3, "DZ\u030cDz\u030cdz\u030c"),
   (0x1C7, 2, "LJLjljNJNjnjA\u030ca\u030cI\u030ci\u030cO\u030co\u030cU\u030cu\u030c"),
   (0x1D5, 3, "U\u0308\u0304u\u0308\u0304U\u0308\u0301u\u0308\u0301U\u0308\u030cu\u0308\u030c"),
   (0x1DB, 3, "U\u0308\u0300u\u0308\u0300"),
   (0x1DE, 3, "A\u0308\u0304a\u0308\u0304A\u0307\u0304a\u0307\u0304"),
   (0x1E2, 2, "Æ\u0304æ\u0304"), (0x1E6, 2, "G\u030cg\u030cK\u030ck\u030cO\u0328o\u0328"),
   (0x1EC, 3, "O\u0328\u0304o\u0328\u0304"),
   (0x1EE, 2, "Ʒ\u030cʒ\u030cj\u030cDZDzdzG\u0301g\u0301"), (0x1F8, 2, "N\u0300n\u0300"),
   (0x1FA, 3, "A\u030a\u0301a\u030a\u0301"),
   (0x1FC, 2, "Æ\u0301æ\u0301Ø\u0301ø\u0301A\u030fa\u030fA\u0311a\u0311E\u030fe\u030fE\u0311"),
   (0x207, 2, "e\u0311I\u030fi\u030fI\u0311i\u0311O\u030fo\u030fO\u0311o\u0311R\u030fr\u030f"),
   (0x212, 2, "R\u0311r\u0311U\u030fu\u030fU\u0311u\u0311S\u0326s\u0326"),
   (0x21A, 2, "T\u0326t\u0326"), (0x21E, 2, "H\u030ch\u030c"),
   (0x226, 2, "A\u0307a\u0307E\u0327e\u0327"),
   (0x22A, 3, "O\u0308\u0304o\u0308\u0304O\u0303\u0304o\u0303\u0304"),
   (0x22E, 2, "O\u0307o\u0307"), (0x230, 3, "O\u0307\u0304o\u0307\u0304"),
   (0x232, 2, "Y\u0304y\u0304"), (0x2B0, 1, "hɦjrɹɻʁwy"), (0x2E0, 1, "ɣlsxʕ"),
   (0x340, 1, "\u0300\u0301"), (0x343, 1, "\u0313"), (0x344, 2, "\u0308\u0301"), (0x374, 1, "ʹ"),
   (0x386, 2, "Α\u0301"), (0x387, 1, "·"), (0x388, 2, "Ε\u0301Η\u0301Ι\u0301"),
   (0x38C, 2, "Ο\u0301"), (0x38E, 2, "Υ\u0301Ω\u0301"), (0x390, 3, "ι\u0308\u0301"),
   (0x3AA, 2, "Ι\u0308Υ\u0308α\u0301ε\u0301η\u0301ι\u0301"), (0x3B0, 3, "υ\u0308\u0301"),
   (0x3CA, 2, "ι\u0308υ\u0308ο\u0301υ\u0301ω\u0301"), (0x3D0, 1, "βθΥ"),
   (0x3D3, 2, "Υ\u0301Υ\u0308"), (0x3D5, 1, "φπ"), (0x3F0, 1, "κρς"), (0x3F4, 1, "Θε"),
   (0x3F9, 1, "Σ"), (0x400, 2, "Е\u0300Е\u0308"), (0x403, 2, "Г\u0301"), (0x407, 2, "І\u0308"),
   (0x40C, 2, "К\u0301И\u0300У\u0306"), (0x419, 2, "И\u0306"), (0x439, 2, "и\u0306"),
   (0x450, 2, "е\u0300е\u0308"), (0x453, 2, "г\u0301"), (0x457, 2, "і\u0308"),
   (0x45C, 2, "к\u0301и\u0300у\u0306"), (0x476, 2, "Ѵ\u030fѵ\u030f"), (0x4C1, 2, "Ж\u0306ж\u0306"),
   (0x4D0, 2, "А\u0306а\u0306А\u0308а\u0308"), (0x4D6, 2, "Е\u0306е\u0306"),
   (0x4DA, 2, "Ә\u0308ә\u0308Ж\u0308ж\u0308З\u0308з\u0308"),
   (0x4E2, 2, "И\u0304и\u0304И\u0308и\u0308О\u0308о\u0308"),
   (0x4EA, 2, "Ө\u0308ө\u0308Э\u0308э\u0308У\u0304у\u0304У\u0308у\u0308У\u030bу\u030bЧ\u0308"),
   (0x4F5, 2, "ч\u0308"), (0x4F8, 2, "Ы\u0308ы\u0308"), (0x587, 2, "եւ"),
   (0x622, 2, "\u0627\u0653\u0627\u0654\u0648\u0654\u0627\u0655\u064a\u0654"),
   (0x675, 2, "\u0627\u0674\u0648\u0674\u06c7\u0674\u064a\u0674"), (0x6C0, 2, "\u06d5\u0654"),
   (0x6C2, 2, "\u06c1\u0654"), (0x6D3, 2, "\u06d2\u0654"), (0x929, 2, "न\u093c"),
   (0x931, 2, "र\u093c"), (0x934, 2, "ळ\u093c"),
   (0x958, 2, "क\u093cख\u093cग\u093cज\u093cड\u093cढ\u093cफ\u093cय\u093c"),
   (0x9CB, 2, "\u09c7\u09be\u09c7\u09d7"), (0x9DC, 2, "ড\u09bcঢ\u09bc"), (0x9DF, 2, "য\u09bc"),
   (0xA33, 2, "ਲ\u0a3c"), (0xA36, 2, "ਸ\u0a3c"), (0xA59, 2, "ਖ\u0a3cਗ\u0a3cਜ\u0a3c"),
   (0xA5E, 2, "ਫ\u0a3c"), (0xB48, 2, "\u0b47\u0b56"), (0xB4B, 2, "\u0b47\u0b3e\u0b47\u0b57"),
   (0xB5C, 2, "ଡ\u0b3cଢ\u0b3c"), (0xB94, 2, "ஒ\u0bd7"),
   (0xBCA, 2, "\u0bc6\u0bbe\u0bc7\u0bbe\u0bc6\u0bd7"), (0xC48, 2, "\u0c46\u0c56"),
   (0xCC0, 2, "\u0cbf\u0cd5"), (0xCC7, 2, "\u0cc6\u0cd5\u0cc6\u0cd6"), (0xCCA, 2, "\u0cc6\u0cc2"),
   (0xCCB, 3, "\u0cc6\u0cc2\u0cd5"), (0xD4A, 2, "\u0d46\u0d3e\u0d47\u0d3e\u0d46\u0d57"),
   (0xDDA, 2, "\u0dd9\u0dca"), (0xDDC, 2, "\u0dd9\u0dcf"), (0xDDD, 3, "\u0dd9\u0dcf\u0dca"),
   (0xDDE, 2, "\u0dd9\u0ddf"), (0xE33, 2, "\u0e4dา"), (0xEB3, 2, "\u0ecdາ"), (0xEDC, 2, "ຫນຫມ"),
   (0xF43, 2, "ག\u0fb7"), (0xF4D, 2, "ཌ\u0fb7"), (0xF52, 2, "ད\u0fb7"), (0xF57, 2, "བ\u0fb7"),
   (0xF5C, 2, "ཛ\u0fb7"), (0xF69, 2, "ཀ\u0fb5"), (0xF73, 2, "\u0f71\u0f72"),
   (0xF75, 2, "\u0f71\u0f74\u0fb2\u0f80"), (0xF77, 3, "\u0fb2\u0f71\u0f80"),
   (0xF78, 2, "\u0fb3\u0f80"), (0xF79, 3, "\u0fb3\u0f71\u0f80"), (0xF81, 2, "\u0f71\u0f80"),
   (0xF93, 2, "\u0f92\u0fb7"), (0xF9D, 2, "\u0f9c\u0fb7"), (0xFA2, 2, "\u0fa1\u0fb7"),
   (0xFA7, 2, "\u0fa6\u0fb7"), (0xFAC, 2, "\u0fab\u0fb7"), (0xFB9, 2, "\u0f90\u0fb5"),
   (0x1026, 2, "ဥ\u102e"), (0x10FC, 1, "ნ"), (0x1B06, 2, "ᬅ\u1b35"), (0x1B08, 2, "ᬇ\u1b35"),
   (0x1B0A, 2, "ᬉ\u1b35"), (0x1B0C, 2, "ᬋ\u1b35"), (0x1B0E, 2, "ᬍ\u1b35"), (0x1B12, 2, "ᬑ\u1b35"),
   (0x1B3B, 2, "\u1b3a\u1b35"), (0x1B3D, 2, "\u1b3c\u1b35"),
   (0x1B40, 2, "\u1b3e\u1b35\u1b3f\u1b35"), (0x1B43, 2, "\u1b42\u1b35"), (0x1D2C, 1, "AÆB"),
   (0x1D30, 1, "DEƎGHIJKLMN"), (0x1D3C, 1, "OȢPRTUWaɐɑᴂbdeəɛɜg"),
   (0x1D4F, 1, "kmŋoɔᴖᴗptuᴝɯvᴥβγδφχiruvβγρφχ"), (0x1D78, 1, "н"),
   (0x1D9B, 1, "ɒcɕðɜfɟɡɥɨɩɪᵻʝɭᶅʟɱɰɲɳɴɵɸʂʃƫʉʊᴜʋʌzʐʑʒθ"),
   (0x1E00, 2, "A\u0325a\u0325B\u0307b\u0307B\u0323b\u0323B\u0331b\u0331"),
   (0x1E08, 3, "C\u0327\u0301c\u0327\u0301"),
   (0x1E0A, 2, "D\u0307d\u0307D\u0323d\u0323D\u0331d\u0331D\u0327d\u0327D\u032dd\u032d"),
   (0x1E14, 3, "E\u0304\u0300e\u0304\u0300E\u0304\u0301e\u0304\u0301"),
   (0x1E18, 2, "E\u032de\u032dE\u0330e\u0330"), (0x1E1C, 3, "E\u0327\u0306e\u0327\u0306"),
   (0x1E1E, 2, "F\u0307f\u0307G\u0304g\u0304H\u0307h\u0307H\u0323h\u0323H\u0308h\u0308H\u0327"),
   (0x1E29, 2, "h\u0327H\u032eh\u032eI\u0330i\u0330"), (0x1E2E, 3, "I\u0308\u0301i\u0308\u0301"),
   (0x1E30, 2, "K\u0301k\u0301K\u0323k\u0323K\u0331k\u0331L\u0323l\u0323"),
   (0x1E38, 3, "L\u0323\u0304l\u0323\u0304"),
   (0x1E3A, 2, "L\u0331l\u0331L\u032dl\u032dM\u0301m\u0301M\u0307m\u0307M\u0323m\u0323N\u0307"),
   (0x1E45, 2, "n\u0307N\u0323n\u0323N\u0331n\u0331N\u032dn\u032d"),
   (0x1E4C, 3, "O\u0303\u0301o\u0303\u0301O\u0303\u0308o\u0303\u0308O\u0304\u0300o\u0304\u0300"),
   (0x1E52, 3, "O\u0304\u0301o\u0304\u0301"),
   (0x1E54, 2, "P\u0301p\u0301P\u0307p\u0307R\u0307r\u0307R\u0323r\u0323"),
   (0x1E5C, 3, "R\u0323\u0304r\u0323\u0304"),
   (0x1E5E, 2, "R\u0331r\u0331S\u0307s\u0307S\u0323s\u0323"),
   (0x1E64, 3, "S\u0301\u0307s\u0301\u0307S\u030c\u0307s\u030c\u0307S\u0323\u0307s\u0323\u0307"),
   (0x1E6A, 2, "T\u0307t\u0307T\u0323t\u0323T\u0331t\u0331T\u032dt\u032dU\u0324u\u0324U\u0330"),
   (0x1E75, 2, "u\u0330U\u032du\u032d"),
   (0x1E78, 3, "U\u0303\u0301u\u0303\u0301U\u0304\u0308u\u0304\u0308"),
   (0x1E7C, 2, "V\u0303v\u0303V\u0323v\u0323W\u0300w\u0300W\u0301w\u0301W\u0308w\u0308W\u0307"),
   (0x1E87, 2, "w\u0307W\u0323w\u0323X\u0307x\u0307X\u0308x\u0308Y\u0307y\u0307Z\u0302z\u0302"),
   (0x1E92, 2, "Z\u0323z\u0323Z\u0331z\u0331h\u0331t\u0308w\u030ay\u030a"),
   (0x1E9A, 2, "aʾs\u0307"), (0x1EA0, 2, "A\u0323a\u0323A\u0309a\u0309"),
   (0x1EA4, 3, "A\u0302\u0301a\u0302\u0301A\u0302\u0300a\u0302\u0300A\u0302\u0309a\u0302\u0309"),
   (0x1EAA, 3, "A\u0302\u0303a\u0302\u0303A\u0323\u0302a\u0323\u0302A\u0306\u0301a\u0306\u0301"),
   (0x1EB0, 3, "A\u0306\u0300a\u0306\u0300A\u0306\u0309a\u0306\u0309A\u0306\u0303a\u0306\u0303"),
   (0x1EB6, 3, "A\u0323\u0306a\u0323\u0306"),
   (0x1EB8, 2, "E\u0323e\u0323E\u0309e\u0309E\u0303e\u0303"),
   (0x1EBE, 3, "E\u0302\u0301e\u0302\u0301E\u0302\u0300e\u0302\u0300E\u0302\u0309e\u0302\u0309"),
   (0x1EC4, 3, "E\u0302\u0303e\u0302\u0303E\u0323\u0302e\u0323\u0302"),
   (0x1EC8, 2, "I\u0309i\u0309I\u0323i\u0323O\u0323o\u0323O\u0309o\u0309"),
   (0x1ED0, 3, "O\u0302\u0301o\u0302\u0301O\u0302\u0300o\u0302\u0300O\u0302\u0309o\u0302\u0309"),
   (0x1ED6, 3, "O\u0302\u0303o\u0302\u0303O\u0323\u0302o\u0323\u0302O\u031b\u0301o\u031b\u0301"),
   (0x1EDC, 3, "O\u031b\u0300o\u031b\u0300O\u031b\u0309o\u031b\u0309O\u031b\u0303o\u031b\u0303"),
   (0x1EE2, 3, "O\u031b\u0323o\u031b\u0323"), (0x1EE4, 2, "U\u0323u\u0323U\u0309u\u0309"),
   (0x1EE8, 3, "U\u031b\u0301u\u031b\u0301U\u031b\u0300u\u031b\u0300U\u031b\u0309u\u031b\u0309"),
   (0x1EEE, 3, "U\u031b\u0303u\u031b\u0303U\u031b\u0323u\u031b\u0323"),
   (0x1EF2, 2, "Y\u0300y\u0300Y\u0323y\u0323Y\u0309y\u0309Y\u0303y\u0303"),
   (0x1F00, 2, "α\u0313α\u0314"),
   (0x1F02, 3, "α\u0313\u0300α\u0314\u0300α\u0313\u0301α\u0314\u0301α\u0313\u0342α\u0314\u0342"),
   (0x1F08, 2, "Α\u0313Α\u0314"),
   (0x1F0A, 3, "Α\u0313\u0300Α\u0314\u0300Α\u0313\u0301Α\u0314\u0301Α\u0313\u0342Α\u0314\u0342"),
   (0x1F10, 2, "ε\u0313ε\u0314"),
   (0x1F12, 3, "ε\u0313\u0300ε\u0314\u0300ε\u0313\u0301ε\u0314\u0301"),
   (0x1F18, 2, "Ε\u0313Ε\u0314"),
   (0x1F1A, 3, "Ε\u0313\u0300Ε\u0314\u0300Ε\u0313\u0301Ε\u0314\u0301"),
   (0x1F20, 2, "η\u0313η\u0314"),
   (0x1F22, 3, "η\u0313\u0300η\u0314\u0300η\u0313\u0301η\u0314\u0301η\u0313\u0342η\u0314\u0342"),
   (0x1F28, 2, "Η\u0313Η\u0314"),
   (0x1F2A, 3, "Η\u0313\u0300Η\u0314\u0300Η\u0313\u0301Η\u0314\u0301Η\u0313\u0342Η\u0314\u0342"),
   (0x1F30, 2, "ι\u0313ι\u0314"),
   (0x1F32, 3, "ι\u0313\u0300ι\u0314\u0300ι\u0313\u0301ι\u0314\u0301ι\u0313\u0342ι\u0314\u0342"),
   (0x1F38, 2, "Ι\u0313Ι\u0314"),
   (0x1F3A, 3, "Ι\u0313\u0300Ι\u0314\u0300Ι\u0313\u0301Ι\u0314\u0301Ι\u0313\u0342Ι\u0314\u0342"),
   (0x1F40, 2, "ο\u0313ο\u0314"),
   (0x1F42, 3, "ο\u0313\u0300ο\u0314\u0300ο\u0313\u0301ο\u0314\u0301"),
   (0x1F48, 2, "Ο\u0313Ο\u0314"),
   (0x1F4A, 3, "Ο\u0313\u0300Ο\u0314\u0300Ο\u0313\u0301Ο\u0314\u0301"),
   (0x1F50, 2, "υ\u0313υ\u0314"),
   (0x1F52, 3, "υ\u0313\u0300υ\u0314\u0300υ\u0313\u0301υ\u0314\u0301υ\u0313\u0342υ\u0314\u0342"),
   (0x1F59, 2, "Υ\u0314"), (0x1F5B, 3, "Υ\u0314\u0300"), (0x1F5D, 3, "Υ\u0314\u0301"),
   (0x1F5F, 3, "Υ\u0314\u0342"), (0x1F60, 2, "ω\u0313ω\u0314"),
   (0x1F62, 3, "ω\u0313\u0300ω\u0314\u0300ω\u0313\u0301ω\u0314\u0301ω\u0313\u0342ω\u0314\u0342"),
   (0x1F68, 2, "Ω\u0313Ω\u0314"),
   (0x1F6A, 3, "Ω\u0313\u0300Ω\u0314\u0300Ω\u0313\u0301Ω\u0314\u0301Ω\u0313\u0342Ω\u0314\u0342"),
   (0x1F70, 2, "α\u0300α\u0301ε\u0300ε\u0301η\u0300η\u0301ι\u0300ι\u0301ο\u0300ο\u0301υ\u0300"),
   (0x1F7B, 2, "υ\u0301ω\u0300ω\u0301"), (0x1F80, 3, "α\u0313\u0345α\u0314\u0345"),
   (0x1F82, 4, "α\u0313\u0300\u0345α\u0314\u0300\u0345α\u0313\u0301\u0345α\u0314\u0301\u0345"),
   (0x1F86, 4, "α\u0313\u0342\u0345α\u0314\u0342\u0345"),
   (0x1F88, 3, "Α\u0313\u0345Α\u0314\u0345"),
   (0x1F8A, 4, "Α\u0313\u0300\u0345Α\u0314\u0300\u0345Α\u0313\u0301\u0345Α\u0314\u0301\u0345"),
   (0x1F8E, 4, "Α\u0313\u0342\u0345Α\u0314\u0342\u0345"),
   (0x1F90, 3, "η\u0313\u0345η\u0314\u0345"),
   (0x1F92, 4, "η\u0313\u0300\u0345η\u0314\u0300\u0345η\u0313\u0301\u0345η\u0314\u0301\u0345"),
   (0x1F96, 4, "η\u0313\u0342\u0345η\u0314\u0342\u0345"),
   (0x1F98, 3, "Η\u0313\u0345Η\u0314\u0345"),
   (0x1F9A, 4, "Η\u0313\u0300\u0345Η\u0314\u0300\u0345Η\u0313\u0301\u0345Η\u0314\u0301\u0345"),
   (0x1F9E, 4, "Η\u0313\u0342\u0345Η\u0314\u0342\u0345"),
   (0x1FA0, 3, "ω\u0313\u0345ω\u0314\u0345"),
   (0x1FA2, 4, "ω\u0313\u0300\u0345ω\u0314\u0300\u0345ω\u0313\u0301\u0345ω\u0314\u0301\u0345"),
   (0x1FA6, 4, "ω\u0313\u0342\u0345ω\u0314\u0342\u0345"),
   (0x1FA8, 3, "Ω\u0313\u0345Ω\u0314\u0345"),
   (0x1FAA, 4, "Ω\u0313\u0300\u0345Ω\u0314\u0300\u0345Ω\u0313\u0301\u0345Ω\u0314\u0301\u0345"),
   (0x1FAE, 4, "Ω\u0313\u0342\u0345Ω\u0314\u0342\u0345"), (0x1FB0, 2, "α\u0306α\u0304"),
   (0x1FB2, 3, "α\u0300\u0345"), (0x1FB3, 2, "α\u0345"), (0x1FB4, 3, "α\u0301\u0345"),
   (0x1FB6, 2, "α\u0342"), (0x1FB7, 3, "α\u0342\u0345"),
   (0x1FB8, 2, "Α\u0306Α\u0304Α\u0300Α\u0301Α\u0345"), (0x1FBE, 1, "ι"),
   (0x1FC2, 3, "η\u0300\u0345"), (0x1FC3, 2, "η\u0345"), (0x1FC4, 3, "η\u0301\u0345"),
   (0x1FC6, 2, "η\u0342"), (0x1FC7, 3, "η\u0342\u0345"),
   (0x1FC8, 2, "Ε\u0300Ε\u0301Η\u0300Η\u0301Η\u0345"), (0x1FD0, 2, "ι\u0306ι\u0304"),
   (0x1FD2, 3, "ι\u0308\u0300ι\u0308\u0301"), (0x1FD6, 2, "ι\u0342"), (0x1FD7, 3, "ι\u0308\u0342"),
   (0x1FD8, 2, "Ι\u0306Ι\u0304Ι\u0300Ι\u0301"), (0x1FE0, 2, "υ\u0306υ\u0304"),
   (0x1FE2, 3, "υ\u0308\u0300υ\u0308\u0301"), (0x1FE4, 2, "ρ\u0313ρ\u0314υ\u0342"),
   (0x1FE7, 3, "υ\u0308\u0342"), (0x1FE8, 2, "Υ\u0306Υ\u0304Υ\u0300Υ\u0301Ρ\u0314"),
   (0x1FF2, 3, "ω\u0300\u0345"), (0x1FF3, 2, "ω\u0345"), (0x1FF4, 3, "ω\u0301\u0345"),
   (0x1FF6, 2, "ω\u0342"), (0x1FF7, 3, "ω\u0342\u0345"),
   (0x1FF8, 2, "Ο\u0300Ο\u0301Ω\u0300Ω\u0301Ω\u0345"), (0x2071, 1, "i"), (0x207F, 1, "n"),
   (0x2090, 1, "aeoxəhklmnpst"), (0x2102, 1, "C"), (0x2107, 1, "Ɛ"), (0x210A, 1, "gHHHhħIILl"),
   (0x2115, 1, "N"), (0x2119, 1, "PQRRR"), (0x2124, 1, "Z"), (0x2126, 1, "Ω"), (0x2128, 1, "Z"),
   (0x212A, 1, "K"), (0x212B, 2, "A\u030a"), (0x212C, 1, "BC"), (0x212F, 1, "eEF"),
   (0x2133, 1, "Mo\u05d0\u05d1\u05d2\u05d3i"), (0x213C, 1, "πγΓΠ"), (0x2145, 1, "Ddeij"),
   (0x2160, 1, "I"), (0x2161, 2, "II"), (0x2162, 3, "III"), (0x2163, 2, "IV"), (0x2164, 1, "V"),
   (0x2165, 2, "VI"), (0x2166, 3, "VII"), (0x2167, 4, "VIII"), (0x2168, 2, "IX"), (0x2169, 1, "X"),
   (0x216A, 2, "XI"), (0x216B, 3, "XII"), (0x216C, 1, "LCDMi"), (0x2171, 2, "ii"),
   (0x2172, 3, "iii"), (0x2173, 2, "iv"), (0x2174, 1, "v"), (0x2175, 2, "vi"), (0x2176, 3, "vii"),
   (0x2177, 4, "viii"), (0x2178, 2, "ix"), (0x2179, 1, "x"), (0x217A, 2, "xi"), (0x217B, 3, "xii"),
   (0x217C, 1, "lcdm"), (0x2C7C, 1, "jV"), (0x2D6F, 1, "ⵡ"), (0x3038, 1, "十卄卅"),
   (0x304C, 2, "か\u3099"), (0x304E, 2, "き\u3099"), (0x3050, 2, "く\u3099"), (0x3052, 2, "け\u3099"),
   (0x3054, 2, "こ\u3099"), (0x3056, 2, "さ\u3099"), (0x3058, 2, "し\u3099"), (0x305A, 2, "す\u3099"),
   (0x305C, 2, "せ\u3099"), (0x305E, 2, "そ\u3099"), (0x3060, 2, "た\u3099"), (0x3062, 2, "ち\u3099"),
   (0x3065, 2, "つ\u3099"), (0x3067, 2, "て\u3099"), (0x3069, 2, "と\u3099"),
   (0x3070, 2, "は\u3099は\u309a"), (0x3073, 2, "ひ\u3099ひ\u309a"), (0x3076, 2, "ふ\u3099ふ\u309a"),
   (0x3079, 2, "へ\u3099へ\u309a"), (0x307C, 2, "ほ\u3099ほ\u309a"), (0x3094, 2, "う\u3099"),
   (0x309E, 2, "ゝ\u3099より"), (0x30AC, 2, "カ\u3099"), (0x30AE, 2, "キ\u3099"),
   (0x30B0, 2, "ク\u3099"), (0x30B2, 2, "ケ\u3099"), (0x30B4, 2, "コ\u3099"), (0x30B6, 2, "サ\u3099"),
   (0x30B8, 2, "シ\u3099"), (0x30BA, 2, "ス\u3099"), (0x30BC, 2, "セ\u3099"), (0x30BE, 2, "ソ\u3099"),
   (0x30C0, 2, "タ\u3099"), (0x30C2, 2, "チ\u3099"), (0x30C5, 2, "ツ\u3099"), (0x30C7, 2, "テ\u3099"),
   (0x30C9, 2, "ト\u3099"), (0x30D0, 2, "ハ\u3099ハ\u309a"), (0x30D3, 2, "ヒ\u3099ヒ\u309a"),
   (0x30D6, 2, "フ\u3099フ\u309a"), (0x30D9, 2, "ヘ\u3099ヘ\u309a"), (0x30DC, 2, "ホ\u3099ホ\u309a"),
   (0x30F4, 2, "ウ\u3099"), (0x30F7, 2, "ワ\u3099ヰ\u3099ヱ\u3099ヲ\u3099"), (0x30FE, 2, "ヽ\u3099コト"),
   (0x3131, 1, "ᄀᄁᆪᄂᆬᆭᄃᄄᄅᆰᆱᆲᆳᆴᆵᄚᄆᄇᄈᄡᄉᄊᄋᄌᄍᄎᄏᄐᄑ하ᅢᅣᅤᅥᅦᅧᅨᅩᅪᅫᅬᅭᅮᅯᅰᅱᅲᅳᅴᅵᅠᄔᄕᇇᇈᇌᇎᇓᇗ"),
   (0x316D, 1, "ᇙᄜᇝᇟᄝᄞᄠᄢᄣᄧᄩᄫᄬᄭᄮᄯᄲᄶᅀᅇᅌᇱᇲᅗᅘᅙᆄᆅᆈᆑᆒᆔᆞᆡ"), (0xA69C, 1, "ъь"), (0xA770, 1, "ꝯ"),
   (0xA7F2, 1, "CFQ"), (0xA7F8, 1, "Ħœ"), (0xAB5C, 1, "ꜧꬷɫꭒ"), (0xAB69, 1, "ʍ"),
   (0xF900, 1, "豈更車賈滑串句龜龜契金喇奈懶癩羅蘿螺裸邏樂洛烙珞落酪駱亂卵欄爛蘭鸞嵐濫藍襤拉臘蠟廊朗浪狼郎來冷勞擄櫓爐盧老蘆虜路露魯鷺碌"),
   (0xF93C, 1, "祿綠菉錄鹿論壟弄籠聾牢磊賂雷壘屢樓淚漏累縷陋勒肋凜凌稜綾菱陵讀拏樂諾丹寧怒率異北磻便復不泌數索參塞省葉說殺辰沈拾若掠略亮"),
   (0xF978, 1, "兩凉梁糧良諒量勵呂女廬旅濾礪閭驪麗黎力曆歷轢年憐戀撚漣煉璉秊練聯輦蓮連鍊列劣咽烈裂說廉念捻殮簾獵令囹寧嶺怜玲瑩羚聆鈴零靈"),
   (0xF9B4, 1, "領例禮醴隸惡了僚寮尿料樂燎療蓼遼龍暈阮劉杻柳流溜琉留硫紐類六戮陸倫崙淪輪律慄栗率隆利吏履易李梨泥理痢罹裏裡里離匿溺吝燐璘"),
   (0xF9F0, 1, "藺隣鱗麟林淋臨立笠粒狀炙識什茶刺切度拓糖宅洞暴輻行降見廓兀嗀"), (0xFA10, 1, "塚"), (0xFA12, 1, "晴"),
   (0xFA15, 1, "凞猪益礼神祥福靖精羽"), (0xFA20, 1, "蘒"), (0xFA22, 1, "諸"), (0xFA25, 1, "逸都"),
   (0xFA2A, 1, "飯飼館鶴郞隷侮僧免勉勤卑喝嘆器塀墨層屮悔慨憎懲敏既暑梅海渚漢煮爫琢碑社祉祈祐祖祝禍禎穀突節練縉繁署者臭艹艹著褐視謁謹賓贈"),
   (0xFA66, 1, "辶逸難響頻恵𤋮舘"),
   (0xFA70, 1, "並况全侀充冀勇勺喝啕喙嗢塚墳奄奔婢嬨廒廙彩徭惘慎愈憎慠懲戴揄搜摒敖晴朗望杖歹殺流滛滋漢瀞煮瞧爵犯猪瑱甆画瘝瘟益盛直睊着磌"),
   (0xFAAC, 1, "窱節类絛練缾者荒華蝹襁覆視調諸請謁諾諭謹變贈輸遲醙鉶陼難靖韛響頋頻鬒龜𢡊𢡄𣏕㮝䀘䀹𥉉𥳐𧻓齃龎"), (0xFB00, 2, "fffifl"),
   (0xFB03, 3, "ffiffl"), (0xFB05, 2, "stst"), (0xFB13, 2, "մնմեմիվնմխ"),
   (0xFB1D, 2, "\u05d9\u05b4"), (0xFB1F, 2, "\u05f2\u05b7"),
   (0xFB20, 1, "\u05e2\u05d0\u05d3\u05d4\u05db\u05dc\u05dd\u05e8\u05ea"),
   (0xFB2A, 2, "\u05e9\u05c1\u05e9\u05c2"), (0xFB2C, 3, "\u05e9\u05bc\u05c1\u05e9\u05bc\u05c2"),
   (0xFB2E, 2, "\u05d0\u05b7\u05d0\u05b8\u05d0\u05bc\u05d1\u05bc\u05d2\u05bc\u05d3\u05bc"),
   (0xFB34, 2, "\u05d4\u05bc\u05d5\u05bc\u05d6\u05bc"),
   (0xFB38, 2, "\u05d8\u05bc\u05d9\u05bc\u05da\u05bc\u05db\u05bc\u05dc\u05bc"),
   (0xFB3E, 2, "\u05de\u05bc"), (0xFB40, 2, "\u05e0\u05bc\u05e1\u05bc"),
   (0xFB43, 2, "\u05e3\u05bc\u05e4\u05bc"),
   (0xFB46, 2, "\u05e6\u05bc\u05e7\u05bc\u05e8\u05bc\u05e9\u05bc\u05ea\u05bc\u05d5\u05b9"),
   (0xFB4C, 2, "\u05d1\u05bf\u05db\u05bf\u05e4\u05bf\u05d0\u05dc"),
   (0xFB50, 1, "\u0671\u0671\u067b\u067b\u067b\u067b\u067e\u067e\u067e\u067e\u0680\u0680\u0680"),
   (0xFB5D, 1, "\u0680\u067a\u067a\u067a\u067a\u067f\u067f\u067f\u067f\u0679\u0679\u0679\u0679"),
   (0xFB6A, 1, "\u06a4\u06a4\u06a4\u06a4\u06a6\u06a6\u06a6\u06a6\u0684\u0684\u0684\u0684\u0683"),
   (0xFB77, 1, "\u0683\u0683\u0683\u0686\u0686\u0686\u0686\u0687\u0687\u0687\u0687\u068d\u068d"),
   (0xFB84, 1, "\u068c\u068c\u068e\u068e\u0688\u0688\u0698\u0698"),
   (0xFB8C, 1, "\u0691\u0691\u06a9\u06a9\u06a9\u06a9\u06af\u06af\u06af\u06af\u06b3\u06b3\u06b3"),
   (0xFB99, 1, "\u06b3\u06b1\u06b1\u06b1\u06b1\u06ba\u06ba\u06bb\u06bb\u06bb\u06bb"),
   (0xFBA4, 2, "\u06d5\u0654\u06d5\u0654"),
   (0xFBA6, 1, "\u06c1\u06c1\u06c1\u06c1\u06be\u06be\u06be\u06be\u06d2\u06d2"),
   (0xFBB0, 2, "\u06d2\u0654\u06d2\u0654"),
   (0xFBD3, 1, "\u06ad\u06ad\u06ad\u06ad\u06c7\u06c7\u06c6\u06c6\u06c8\u06c8"),
   (0xFBDD, 2, "\u06c7\u0674"),
   (0xFBDE, 1, "\u06cb\u06cb\u06c5\u06c5\u06c9\u06c9\u06d0\u06d0\u06d0\u06d0\u0649\u0649"),
   (0xFBEA, 3, "\u064a\u0654\u0627\u064a\u0654\u0627\u064a\u0654\u06d5\u064a\u0654\u06d5"),
   (0xFBEE, 3, "\u064a\u0654\u0648\u064a\u0654\u0648\u064a\u0654\u06c7\u064a\u0654\u06c7"),
   (0xFBF2, 3, "\u064a\u0654\u06c6\u064a\u0654\u06c6\u064a\u0654\u06c8\u064a\u0654\u06c8"),
   (0xFBF6, 3, "\u064a\u0654\u06d0\u064a\u0654\u06d0\u064a\u0654\u06d0\u064a\u0654\u0649"),
   (0xFBFA, 3, "\u064a\u0654\u0649\u064a\u0654\u0649"), (0xFBFC, 1, "\u06cc\u06cc\u06cc\u06cc"),
   (0xFC00, 3, "\u064a\u0654\u062c\u064a\u0654\u062d\u064a\u0654\u0645\u064a\u0654\u0649"),
   (0xFC04, 3, "\u064a\u0654\u064a"),
   (0xFC05, 2, "\u0628\u062c\u0628\u062d\u0628\u062e\u0628\u0645\u0628\u0649\u0628\u064a"),
   (0xFC0B, 2, "\u062a\u062c\u062a\u062d\u062a\u062e\u062a\u0645\u062a\u0649\u062a\u064a"),
   (0xFC11, 2, "\u062b\u062c\u062b\u0645\u062b\u0649\u062b\u064a\u062c\u062d\u062c\u0645"),
   (0xFC17, 2, "\u062d\u062c\u062d\u0645\u062e\u062c\u062e\u062d\u062e\u0645\u0633\u062c"),
   (0xFC1D, 2, "\u0633\u062d\u0633\u062e\u0633\u0645\u0635\u062d\u0635\u0645\u0636\u062c"),
   (0xFC23, 2, "\u0636\u062d\u0636\u062e\u0636\u0645\u0637\u062d\u0637\u0645\u0638\u0645"),
   (0xFC29, 2, "\u0639\u062c\u0639\u0645\u063a\u062c\u063a\u0645\u0641\u062c\u0641\u062d"),
   (0xFC2F, 2, "\u0641\u062e\u0641\u0645\u0641\u0649\u0641\u064a\u0642\u062d\u0642\u0645"),
   (0xFC35, 2, "\u0642\u0649\u0642\u064a\u0643\u0627\u0643\u062c\u0643\u062d\u0643\u062e"),
   (0xFC3B, 2, "\u0643\u0644\u0643\u0645\u0643\u0649\u0643\u064a\u0644\u062c\u0644\u062d"),
   (0xFC41, 2, "\u0644\u062e\u0644\u0645\u0644\u0649\u0644\u064a\u0645\u062c\u0645\u062d"),
   (0xFC47, 2, "\u0645\u062e\u0645\u0645\u0645\u0649\u0645\u064a\u0646\u062c\u0646\u062d"),
   (0xFC4D, 2, "\u0646\u062e\u0646\u0645\u0646\u0649\u0646\u064a\u0647\u062c\u0647\u0645"),
   (0xFC53, 2, "\u0647\u0649\u0647\u064a\u064a\u062c\u064a\u062d\u064a\u062e\u064a\u0645"),
   (0xFC59, 2, "\u064a\u0649\u064a\u064a\u0630\u0670\u0631\u0670\u0649\u0670"),
   (0xFC64, 3, "\u064a\u0654\u0631\u064a\u0654\u0632\u064a\u0654\u0645\u064a\u0654\u0646"),
   (0xFC68, 3, "\u064a\u0654\u0649\u064a\u0654\u064a"),
   (0xFC6A, 2, "\u0628\u0631\u0628\u0632\u0628\u0645\u0628\u0646\u0628\u0649\u0628\u064a"),
   (0xFC70, 2, "\u062a\u0631\u062a\u0632\u062a\u0645\u062a\u0646\u062a\u0649\u062a\u064a"),
   (0xFC76, 2, "\u062b\u0631\u062b\u0632\u062b\u0645\u062b\u0646\u062b\u0649\u062b\u064a"),
   (0xFC7C, 2, "\u0641\u0649\u0641\u064a\u0642\u0649\u0642\u064a\u0643\u0627\u0643\u0644"),
   (0xFC82, 2, "\u0643\u0645\u0643\u0649\u0643\u064a\u0644\u0645\u0644\u0649\u0644\u064a"),
   (0xFC88, 2, "\u0645\u0627\u0645\u0645\u0646\u0631\u0646\u0632\u0646\u0645\u0646\u0646"),
   (0xFC8E, 2, "\u0646\u0649\u0646\u064a\u0649\u0670\u064a\u0631\u064a\u0632\u064a\u0645"),
   (0xFC94, 2, "\u064a\u0646\u064a\u0649\u064a\u064a"),
   (0xFC97, 3, "\u064a\u0654\u062c\u064a\u0654\u062d\u064a\u0654\u062e\u064a\u0654\u0645"),
   (0xFC9B, 3, "\u064a\u0654\u0647"),
   (0xFC9C, 2, "\u0628\u062c\u0628\u062d\u0628\u062e\u0628\u0645\u0628\u0647\u062a\u062c"),
   (0xFCA2, 2, "\u062a\u062d\u062a\u062e\u062a\u0645\u062a\u0647\u062b\u0645\u062c\u062d"),
   (0xFCA8, 2, "\u062c\u0645\u062d\u062c\u062d\u0645\u062e\u062c\u062e\u0645\u0633\u062c"),
   (0xFCAE, 2, "\u0633\u062d\u0633\u062e\u0633\u0645\u0635\u062d\u0635\u062e\u0635\u0645"),
   (0xFCB4, 2, "\u0636\u062c\u0636\u062d\u0636\u062e\u0636\u0645\u0637\u062d\u0638\u0645"),
   (0xFCBA, 2, "\u0639\u062c\u0639\u0645\u063a\u062c\u063a\u0645\u0641\u062c\u0641\u062d"),
   (0xFCC0, 2, "\u0641\u062e\u0641\u0645\u0642\u062d\u0642\u0645\u0643\u062c\u0643\u062d"),
   (0xFCC6, 2, "\u0643\u062e\u0643\u0644\u0643\u0645\u0644\u062c\u0644\u062d\u0644\u062e"),
   (0xFCCC, 2, "\u0644\u0645\u0644\u0647\u0645\u062c\u0645\u062d\u0645\u062e\u0645\u0645"),
   (0xFCD2, 2, "\u0646\u062c\u0646\u062d\u0646\u062e\u0646\u0645\u0646\u0647\u0647\u062c"),
   (0xFCD8, 2, "\u0647\u0645\u0647\u0670\u064a\u062c\u064a\u062d\u064a\u062e\u064a\u0645"),
   (0xFCDE, 2, "\u064a\u0647"), (0xFCDF, 3, "\u064a\u0654\u0645\u064a\u0654\u0647"),
   (0xFCE1, 2, "\u0628\u0645\u0628\u0647\u062a\u0645\u062a\u0647\u062b\u0645\u062b\u0647"),
   (0xFCE7, 2, "\u0633\u0645\u0633\u0647\u0634\u0645\u0634\u0647\u0643\u0644\u0643\u0645"),
   (0xFCED, 2, "\u0644\u0645\u0646\u0645\u0646\u0647\u064a\u0645\u064a\u0647"),
   (0xFCF2, 3, "\u0640\u064e\u0651\u0640\u064f\u0651\u0640\u0650\u0651"),
   (0xFCF5, 2, "\u0637\u0649\u0637\u064a\u0639\u0649\u0639\u064a\u063a\u0649\u063a\u064a"),
   (0xFCFB, 2, "\u0633\u0649\u0633\u064a\u0634\u0649\u0634\u064a\u062d\u0649\u062d\u064a"),
   (0xFD01, 2, "\u062c\u0649\u062c\u064a\u062e\u0649\u062e\u064a\u0635\u0649\u0635\u064a"),
   (0xFD07, 2, "\u0636\u0649\u0636\u064a\u0634\u062c\u0634\u062d\u0634\u062e\u0634\u0645"),
   (0xFD0D, 2, "\u0634\u0631\u0633\u0631\u0635\u0631\u0636\u0631\u0637\u0649\u0637\u064a"),
   (0xFD13, 2, "\u0639\u0649\u0639\u064a\u063a\u0649\u063a\u064a\u0633\u0649\u0633\u064a"),
   (0xFD19, 2, "\u0634\u0649\u0634\u064a\u062d\u0649\u062d\u064a\u062c\u0649\u062c\u064a"),
   (0xFD1F, 2, "\u062e\u0649\u062e\u064a\u0635\u0649\u0635\u064a\u0636\u0649\u0636\u064a"),
   (0xFD25, 2, "\u0634\u062c\u0634\u062d\u0634\u062e\u0634\u0645\u0634\u0631\u0633\u0631"),
   (0xFD2B, 2, "\u0635\u0631\u0636\u0631\u0634\u062c\u0634\u062d\u0634\u062e\u0634\u0645"),
   (0xFD31, 2, "\u0633\u0647\u0634\u0647\u0637\u0645\u0633\u062c\u0633\u062d\u0633\u062e"),
   (0xFD37, 2, "\u0634\u062c\u0634\u062d\u0634\u062e\u0637\u0645\u0638\u0645\u0627\u064b"),
   (0xFD3D, 2, "\u0627\u064b"),
   (0xFD50, 3, "\u062a\u062c\u0645\u062a\u062d\u062c\u062a\u062d\u062c\u062a\u062d\u0645"),
   (0xFD54, 3, "\u062a\u062e\u0645\u062a\u0645\u062c\u062a\u0645\u062d\u062a\u0645\u062e"),
   (0xFD58, 3, "\u062c\u0645\u062d\u062c\u0645\u062d\u062d\u0645\u064a\u062d\u0645\u0649"),
   (0xFD5C, 3, "\u0633\u062d\u062c\u0633\u062c\u062d\u0633\u062c\u0649\u0633\u0645\u062d"),
   (0xFD60, 3, "\u0633\u0645\u062d\u0633\u0645\u062c\u0633\u0645\u0645\u0633\u0645\u0645"),
   (0xFD64, 3, "\u0635\u062d\u062d\u0635\u062d\u062d\u0635\u0645\u0645\u0634\u062d\u0645"),
   (0xFD68, 3, "\u0634\u062d\u0645\u0634\u062c\u064a\u0634\u0645\u062e\u0634\u0645\u062e"),
   (0xFD6C, 3, "\u0634\u0645\u0645\u0634\u0645\u0645\u0636\u062d\u0649\u0636\u062e\u0645"),
   (0xFD70, 3, "\u0636\u062e\u0645\u0637\u0645\u062d\u0637\u0645\u062d\u0637\u0645\u0645"),
   (0xFD74, 3, "\u0637\u0645\u064a\u0639\u062c\u0645\u0639\u0645\u0645\u0639\u0645\u0645"),
   (0xFD78, 3, "\u0639\u0645\u0649\u063a\u0645\u0645\u063a\u0645\u064a\u063a\u0645\u0649"),
   (0xFD7C, 3, "\u0641\u062e\u0645\u0641\u062e\u0645\u0642\u0645\u062d\u0642\u0645\u0645"),
   (0xFD80, 3, "\u0644\u062d\u0645\u0644\u062d\u064a\u0644\u062d\u0649\u0644\u062c\u062c"),
   (0xFD84, 3, "\u0644\u062c\u062c\u0644\u062e\u0645\u0644\u062e\u0645\u0644\u0645\u062d"),
   (0xFD88, 3, "\u0644\u0645\u062d\u0645\u062d\u062c\u0645\u062d\u0645\u0645\u062d\u064a"),
   (0xFD8C, 3, "\u0645\u062c\u062d\u0645\u062c\u0645\u0645\u062e\u062c\u0645\u062e\u0645"),
   (0xFD92, 3, "\u0645\u062c\u062e\u0647\u0645\u062c\u0647\u0645\u0645\u0646\u062d\u0645"),
   (0xFD96, 3, "\u0646\u062d\u0649\u0646\u062c\u0645\u0646\u062c\u0645\u0646\u062c\u0649"),
   (0xFD9A, 3, "\u0646\u0645\u064a\u0646\u0645\u0649\u064a\u0645\u0645\u064a\u0645\u0645"),
   (0xFD9E, 3, "\u0628\u062e\u064a\u062a\u062c\u064a\u062a\u062c\u0649\u062a\u062e\u064a"),
   (0xFDA2, 3, "\u062a\u062e\u0649\u062a\u0645\u064a\u062a\u0645\u0649\u062c\u0645\u064a"),
   (0xFDA6, 3, "\u062c\u062d\u0649\u062c\u0645\u0649\u0633\u062e\u0649\u0635\u062d\u064a"),
   (0xFDAA, 3, "\u0634\u062d\u064a\u0636\u062d\u064a\u0644\u062c\u064a\u0644\u0645\u064a"),
   (0xFDAE, 3, "\u064a\u062d\u064a\u064a\u062c\u064a\u064a\u0645\u064a\u0645\u0645\u064a"),
   (0xFDB2, 3, "\u0642\u0645\u064a\u0646\u062d\u064a\u0642\u0645\u062d\u0644\u062d\u0645"),
   (0xFDB6, 3, "\u0639\u0645\u064a\u0643\u0645\u064a\u0646\u062c\u062d\u0645\u062e\u064a"),
   (0xFDBA, 3, "\u0644\u062c\u0645\u0643\u0645\u0645\u0644\u062c\u0645\u0646\u062c\u062d"),
   (0xFDBE, 3, "\u062c\u062d\u064a\u062d\u062c\u064a\u0645\u062c\u064a\u0641\u0645\u064a"),
   (0xFDC2, 3, "\u0628\u062d\u064a\u0643\u0645\u0645\u0639\u062c\u0645\u0635\u0645\u0645"),
   (0xFDC6, 3, "\u0633\u062e\u064a\u0646\u062c\u064a"),
   (0xFDF0, 3, "\u0635\u0644\u06d2\u0642\u0644\u06d2"),
   (0xFDF2, 4, "\u0627\u0644\u0644\u0647\u0627\u0643\u0628\u0631\u0645\u062d\u0645\u062f"),
   (0xFDF5, 4, "\u0635\u0644\u0639\u0645\u0631\u0633\u0648\u0644\u0639\u0644\u064a\u0647"),
   (0xFDF8, 4, "\u0648\u0633\u0644\u0645"), (0xFDF9, 3, "\u0635\u0644\u0649"), (0xFE33, 1, "__"),
   (0xFE4D, 1, "___"), (0xFE71, 2, "\u0640\u064b"), (0xFE77, 2, "\u0640\u064e"),
   (0xFE79, 2, "\u0640\u064f"), (0xFE7B, 2, "\u0640\u0650"), (0xFE7D, 2, "\u0640\u0651"),
   (0xFE7F, 2, "\u0640\u0652"), (0xFE80, 1, "\u0621"),
   (0xFE81, 2, "\u0627\u0653\u0627\u0653\u0627\u0654\u0627\u0654\u0648\u0654\u0648\u0654"),
   (0xFE87, 2, "\u0627\u0655\u0627\u0655\u064a\u0654\u064a\u0654\u064a\u0654\u064a\u0654"),
   (0xFE8D, 1, "\u0627\u0627\u0628\u0628\u0628\u0628\u0629\u0629\u062a\u062a\u062a\u062a\u062b"),
   (0xFE9A, 1, "\u062b\u062b\u062b\u062c\u062c\u062c\u062c\u062d\u062d\u062d\u062d\u062e\u062e"),
   (0xFEA7, 1, "\u062e\u062e\u062f\u062f\u0630\u0630\u0631\u0631\u0632\u0632\u0633\u0633\u0633"),
   (0xFEB4, 1, "\u0633\u0634\u0634\u0634\u0634\u0635\u0635\u0635\u0635\u0636\u0636\u0636\u0636"),
   (0xFEC1, 1, "\u0637\u0637\u0637\u0637\u0638\u0638\u0638\u0638"),
   (0xFEC9, 1, "\u0639\u0639\u0639\u0639\u063a\u063a\u063a\u063a\u0641\u0641\u0641\u0641\u0642"),
   (0xFED6, 1, "\u0642\u0642\u0642\u0643\u0643\u0643\u0643\u0644\u0644\u0644\u0644\u0645\u0645"),
   (0xFEE3, 1, "\u0645\u0645\u0646\u0646\u0646\u0646\u0647\u0647\u0647\u0647\u0648\u0648\u0649"),
   (0xFEF0, 1, "\u0649\u064a\u064a\u064a\u064a"),
   (0xFEF5, 3, "\u0644\u0627\u0653\u0644\u0627\u0653\u0644\u0627\u0654\u0644\u0627\u0654"),
   (0xFEF9, 3, "\u0644\u0627\u0655\u0644\u0627\u0655"), (0xFEFB, 2, "\u0644\u0627\u0644\u0627"),
   (0xFF10, 1, "0123456789"), (0xFF21, 1, "ABCDEFGHIJKLMNOPQRSTUVWXYZ"), (0xFF3F, 1, "_"),
   (0xFF41, 1, "abcdefghijklmnopqrstuvwxyz"),
   (0xFF66, 1, "ヲァィゥェォャュョッーアイウエオカキクケコサシスセソタチツテトナニヌネノハヒフヘホマミムメモヤユヨラリルレロワン\u3099\u309aᅠᄀ"),
   (0xFFA2, 1, "ᄁᆪᄂᆬᆭᄃᄄᄅᆰᆱᆲᆳᆴᆵᄚᄆᄇᄈᄡᄉᄊᄋᄌᄍᄎᄏᄐᄑᄒ"), (0xFFC2, 1, "ᅡᅢᅣᅤᅥᅦ"), (0xFFCA, 1, "ᅧᅨᅩᅪᅫᅬ"),
   (0xFFD2, 1, "ᅭᅮᅯᅰᅱᅲ"), (0xFFDA, 1, "ᅳᅴᅵ"), (0x10781, 1, "ːˑæʙɓ"),
   (0x10787, 1, "ʣꭦʥʤɖɗᶑɘɞʩɤɢɠʛħʜɧʄʪʫɬ𝼄ꞎɮ𝼅ʎ𝼆øɶɷqɺ𝼈ɽɾʀʨʦꭧʧʈⱱ"), (0x107B2, 1, "ʏʡʢʘǀǁǂ𝼊𝼞"),
   (0x1109A, 2, "𑂚"), (0x1109C, 2, "𑂜"), (0x110AB, 2, "𑂫"), (0x1112E, 2, "𑄮𑄯"),
   (0x1134B, 2, "𑍋𑍌"), (0x114BB, 2, "𑒻𑒼"), (0x114BE, 2, "𑒾"), (0x115BA, 2, "𑖺𑖻"),
   (0x11938, 2, "𑤸"),
   (0x1D400, 1, "ABCDEFGHIJKLMNOPQRSTUVWXYZabcdefghijklmnopqrstuvwxyzABCDEFGH"),
   (0x1D43C, 1, "IJKLMNOPQRSTUVWXYZabcdefg"),
   (0x1D456, 1, "ijklmnopqrstuvwxyzABCDEFGHIJKLMNOPQRSTUVWXYZabcdefghijklmnop"),
   (0x1D492, 1, "qrstuvwxyzA"), (0x1D49E, 1, "CD"), (0x1D4A2, 1, "G"), (0x1D4A5, 1, "JK"),
   (0x1D4A9, 1, "NOPQ"), (0x1D4AE, 1, "STUVWXYZabcd"), (0x1D4BB, 1, "f"), (0x1D4BD, 1, "hijklmn"),
   (0x1D4C5, 1, "pqrstuvwxyzABCDEFGHIJKLMNOPQRSTUVWXYZabcdefghijklmnopqrstuvw"),
   (0x1D501, 1, "xyzAB"), (0x1D507, 1, "DEFG"), (0x1D50D, 1, "JKLMNOPQ"), (0x1D516, 1, "STUVWXY"),
   (0x1D51E, 1, "abcdefghijklmnopqrstuvwxyzAB"), (0x1D53B, 1, "DEFG"), (0x1D540, 1, "IJKLM"),
   (0x1D546, 1, "O"), (0x1D54A, 1, "STUVWXY"),
   (0x1D552, 1, "abcdefghijklmnopqrstuvwxyzABCDEFGHIJKLMNOPQRSTUVWXYZabcdefgh"),
   (0x1D58E, 1, "ijklmnopqrstuvwxyzABCDEFGHIJKLMNOPQRSTUVWXYZabcdefghijklmnop"),
   (0x1D5CA, 1, "qrstuvwxyzABCDEFGHIJKLMNOPQRSTUVWXYZabcdefghijklmnopqrstuvwx"),
   (0x1D606, 1, "yzABCDEFGHIJKLMNOPQRSTUVWXYZabcdefghijklmnopqrstuvwxyzABCDEF"),
   (0x1D642, 1, "GHIJKLMNOPQRSTUVWXYZabcdefghijklmnopqrstuvwxyzABCDEFGHIJKLMN"),
   (0x1D67E, 1, "OPQRSTUVWXYZabcdefghijklmnopqrstuvwxyzıȷ"),
   (0x1D6A8, 1, "ΑΒΓΔΕΖΗΘΙΚΛΜΝΞΟΠΡΘΣΤΥΦΧΨΩ"), (0x1D6C2, 1, "αβγδεζηθικλμνξοπρςστυφχψω"),
   (0x1D6DC, 1, "εθκφρπΑΒΓΔΕΖΗΘΙΚΛΜΝΞΟΠΡΘΣΤΥΦΧΨΩ"), (0x1D6FC, 1, "αβγδεζηθικλμνξοπρςστυφχψω"),
   (0x1D716, 1, "εθκφρπΑΒΓΔΕΖΗΘΙΚΛΜΝΞΟΠΡΘΣΤΥΦΧΨΩ"), (0x1D736, 1, "αβγδεζηθικλμνξοπρςστυφχψω"),
   (0x1D750, 1, "εθκφρπΑΒΓΔΕΖΗΘΙΚΛΜΝΞΟΠΡΘΣΤΥΦΧΨΩ"), (0x1D770, 1, "αβγδεζηθικλμνξοπρςστυφχψω"),
   (0x1D78A, 1, "εθκφρπΑΒΓΔΕΖΗΘΙΚΛΜΝΞΟΠΡΘΣΤΥΦΧΨΩ"), (0x1D7AA, 1, "αβγδεζηθικλμνξοπρςστυφχψω"),
   (0x1D7C4, 1, "εθκφρπϜϝ"), (0x1D7CE, 1, "01234567890123456789012345678901234567890123456789"),
   (0x1EE00, 1, "\u0627\u0628\u062c\u062f"),
   (0x1EE05, 1, "\u0648\u0632\u062d\u0637\u064a\u0643\u0644\u0645\u0646\u0633\u0639\u0641\u0635"),
   (0x1EE12, 1, "\u0642\u0631\u0634\u062a\u062b\u062e\u0630\u0636\u0638\u063a\u066e\u06ba\u06a1"),
   (0x1EE1F, 1, "\u066f"), (0x1EE21, 1, "\u0628\u062c"), (0x1EE24, 1, "\u0647"),
   (0x1EE27, 1, "\u062d"),
   (0x1EE29, 1, "\u064a\u0643\u0644\u0645\u0646\u0633\u0639\u0641\u0635\u0642"),
   (0x1EE34, 1, "\u0634\u062a\u062b\u062e"), (0x1EE39, 1, "\u0636"), (0x1EE3B, 1, "\u063a"),
   (0x1EE42, 1, "\u062c"), (0x1EE47, 1, "\u062d"), (0x1EE49, 1, "\u064a"), (0x1EE4B, 1, "\u0644"),
   (0x1EE4D, 1, "\u0646\u0633\u0639"), (0x1EE51, 1, "\u0635\u0642"), (0x1EE54, 1, "\u0634"),
   (0x1EE57, 1, "\u062e"), (0x1EE59, 1, "\u0636"), (0x1EE5B, 1, "\u063a"), (0x1EE5D, 1, "\u06ba"),
   (0x1EE5F, 1, "\u066f"), (0x1EE61, 1, "\u0628\u062c"), (0x1EE64, 1, "\u0647"),
   (0x1EE67, 1, "\u062d\u0637\u064a\u0643"),
   (0x1EE6C, 1, "\u0645\u0646\u0633\u0639\u0641\u0635\u0642"),
   (0x1EE74, 1, "\u0634\u062a\u062b\u062e"), (0x1EE79, 1, "\u0636\u0638\u063a\u066e"),
   (0x1EE7E, 1, "\u06a1"),
   (0x1EE80, 1, "\u0627\u0628\u062c\u062f\u0647\u0648\u0632\u062d\u0637\u064a"),
   (0x1EE8B, 1, "\u0644\u0645\u0646\u0633\u0639\u0641\u0635\u0642\u0631\u0634\u062a\u062b\u062e"),
   (0x1EE98, 1, "\u0630\u0636\u0638\u063a"), (0x1EEA1, 1, "\u0628\u062c\u062f"),
   (0x1EEA5, 1, "\u0648\u0632\u062d\u0637\u064a"),
   (0x1EEAB, 1, "\u0644\u0645\u0646\u0633\u0639\u0641\u0635\u0642\u0631\u0634\u062a\u062b\u062e"),
   (0x1EEB8, 1, "\u0630\u0636\u0638\u063a"), (0x1FBF0, 1, "0123456789"),
   (0x2F800, 1, "丽丸乁𠄢你侮侻倂偺備僧像㒞𠘺免兔兤具𠔜㒹內再𠕋冗冤仌冬况𩇟凵刃㓟刻剆割剷㔕勇勉勤勺包匆北卉卑博即卽卿卿卿𠨬灰及叟𠭣叫叱吆"),
   (0x2F83C, 1, "咞吸呈周咢哶唐啓啣善善喙喫喳嗂圖嘆圗噑噴切壮城埴堍型堲報墬𡓤売壷夆多夢奢𡚨𡛪姬娛娧姘婦㛮㛼嬈嬾嬾𡧈寃寘寧寳𡬘寿将当尢㞁屠"),
   (0x2F878, 1, "屮峀岍𡷤嵃𡷦嵮嵫嵼巡巢㠯巽帨帽幩㡢𢆃㡼庰庳庶廊𪎒廾𢌱𢌱舁弢弢㣇𣊸𦇚形彫㣣徚忍志忹悁㤺㤜悔𢛔惇慈慌慎慌慺憎憲憤憯懞懲懶成戛"),
   (0x2F8B4, 1, "扝抱拔捐𢬌挽拼捨掃揤𢯱搢揅掩㨮摩摾撝摷㩬敏敬𣀊旣書晉㬙暑㬈㫤冒冕最暜肭䏙朗望朡杞杓𣏃㭉柺枅桒梅𣑭梎栟椔㮝楂榣槪檨𣚣櫛㰘次"),
   (0x2F8F0, 1, "𣢧歔㱎歲殟殺殻𣪍𡴋𣫺汎𣲼沿泍汧洖派海流浩浸涅𣴞洴港湮㴳滋滇𣻑淹潮𣽞𣾎濆瀹瀞瀛㶖灊災灷炭𠔥煅𤉣熜𤎫爨爵牐𤘈犀犕𤜵𤠔獺王㺬玥"),
   (0x2F92C, 1, "㺸㺸瑇瑜瑱璅瓊㼛甤𤰶甾𤲒異𢆟瘐𤾡𤾸𥁄㿼䀈直𥃳𥃲𥄙𥄳眞真真睊䀹瞋䁆䂖𥐝硎碌磌䃣𥘦祖𥚚𥛅福秫䄯穀穊穏𥥼𥪧𥪧竮䈂𥮫篆築䈧𥲀糒䊠"),
   (0x2F968, 1, "糨糣紀𥾆絣䌁緇縂繅䌴𦈨𦉇䍙𦋙罺𦌾羕翺者𦓚𦔣聠𦖨聰𣍟䏕育脃䐋脾媵𦞧𦞵𣎓𣎜舁舄辞䑫芑芋芝劳花芳芽苦𦬼若茝荣莭茣莽菧著荓菊菌菜"),
   (0x2F9A4, 1, "𦰶𦵫𦳕䔫蓱蓳蔖𧏊蕤𦼬䕝䕡𦾱𧃒䕫虐虜虧虩蚩蚈蜎蛢蝹蜨蝫螆䗗蟡蠁䗹衠衣𧙧裗裞䘵裺㒻𧢮𧥦䚾䛇誠諭變豕𧲨貫賁贛起𧼯𠠄跋趼跰𠣞軔輸"),
   (0x2F9E0, 1, "𨗒𨗭邔郱鄑𨜮鄛鈸鋗鋘鉼鏹鐕𨯺開䦕閷𨵷䧦雃嶲霣𩅅𩈚䩮䩶韠𩐊䪲𩒖頋頋頩𩖶飢䬳餩馧駂駾䯎𩬰鬒鱀鳽䳎䳭鵧𪃎䳸𪄅𪈎𪊑麻䵖黹黾鼅鼏鼖"),
   (0x2FA1C, 1, "鼻𪘀")]

/-- Ranges of marks with their class; a mark of a lower class comes first. -/
def markClasses : List (Nat × Nat × Nat) :=
  [(0x300, 0x314, 230), (0x315, 0x315, 232), (0x316, 0x319, 220), (0x31A, 0x31A, 232),
   (0x31B, 0x31B, 216), (0x31C, 0x320, 220), (0x321, 0x322, 202), (0x323, 0x326, 220),
   (0x327, 0x328, 202), (0x329, 0x333, 220), (0x334, 0x338, 1), (0x339, 0x33C, 220),
   (0x33D, 0x344, 230), (0x345, 0x345, 240), (0x346, 0x346, 230), (0x347, 0x349, 220),
   (0x34A, 0x34C, 230), (0x34D, 0x34E, 220), (0x350, 0x352, 230), (0x353, 0x356, 220),
   (0x357, 0x357, 230), (0x358, 0x358, 232), (0x359, 0x35A, 220), (0x35B, 0x35B, 230),
   (0x35C, 0x35C, 233), (0x35D, 0x35E, 234), (0x35F, 0x35F, 233), (0x360, 0x361, 234),
   (0x362, 0x362, 233), (0x363, 0x36F, 230), (0x483, 0x487, 230), (0x591, 0x591, 220),
   (0x592, 0x595, 230), (0x596, 0x596, 220), (0x597, 0x599, 230), (0x59A, 0x59A, 222),
   (0x59B, 0x59B, 220), (0x59C, 0x5A1, 230), (0x5A2, 0x5A7, 220), (0x5A8, 0x5A9, 230),
   (0x5AA, 0x5AA, 220), (0x5AB, 0x5AC, 230), (0x5AD, 0x5AD, 222), (0x5AE, 0x5AE, 228),
   (0x5AF, 0x5AF, 230), (0x5B0, 0x5B0, 10), (0x5B1, 0x5B1, 11), (0x5B2, 0x5B2, 12),
   (0x5B3, 0x5B3, 13), (0x5B4, 0x5B4, 14), (0x5B5, 0x5B5, 15), (0x5B6, 0x5B6, 16),
   (0x5B7, 0x5B7, 17), (0x5B8, 0x5B8, 18), (0x5B9, 0x5BA, 19), (0x5BB, 0x5BB, 20),
   (0x5BC, 0x5BC, 21), (0x5BD, 0x5BD, 22), (0x5BF, 0x5BF, 23), (0x5C1, 0x5C1, 24),
   (0x5C2, 0x5C2, 25), (0x5C4, 0x5C4, 230), (0x5C5, 0x5C5, 220), (0x5C7, 0x5C7, 18),
   (0x610, 0x617, 230), (0x618, 0x618, 30), (0x619, 0x619, 31), (0x61A, 0x61A, 32),
   (0x64B, 0x64B, 27), (0x64C, 0x64C, 28), (0x64D, 0x64D, 29), (0x64E, 0x64E, 30),
   (0x64F, 0x64F, 31), (0x650, 0x650, 32), (0x651, 0x651, 33), (0x652, 0x652, 34),
   (0x653, 0x654, 230), (0x655, 0x656, 220), (0x657, 0x65B, 230), (0x65C, 0x65C, 220),
   (0x65D, 0x65E, 230), (0x65F, 0x65F, 220), (0x670, 0x670, 35), (0x6D6, 0x6DC, 230),
   (0x6DF, 0x6E2, 230), (0x6E3, 0x6E3, 220), (0x6E4, 0x6E4, 230), (0x6E7, 0x6E8, 230),
   (0x6EA, 0x6EA, 220), (0x6EB, 0x6EC, 230), (0x6ED, 0x6ED, 220), (0x711, 0x711, 36),
   (0x730, 0x730, 230), (0x731, 0x731, 220), (0x732, 0x733, 230), (0x734, 0x734, 220),
   (0x735, 0x736, 230), (0x737, 0x739, 220), (0x73A, 0x73A, 230), (0x73B, 0x73C, 220),
   (0x73D, 0x73D, 230), (0x73E, 0x73E, 220), (0x73F, 0x741, 230), (0x742, 0x742, 220),
   (0x743, 0x743, 230), (0x744, 0x744, 220), (0x745, 0x745, 230), (0x746, 0x746, 220),
   (0x747, 0x747, 230), (0x748, 0x748, 220), (0x749, 0x74A, 230), (0x7EB, 0x7F1, 230),
   (0x7F2, 0x7F2, 220), (0x7F3, 0x7F3, 230), (0x7FD, 0x7FD, 220), (0x816, 0x819, 230),
   (0x81B, 0x823, 230), (0x825, 0x827, 230), (0x829, 0x82D, 230), (0x859, 0x85B, 220),
   (0x898, 0x898, 230), (0x899, 0x89B, 220), (0x89C, 0x89F, 230), (0x8CA, 0x8CE, 230),
   (0x8CF, 0x8D3, 220), (0x8D4, 0x8E1, 230), (0x8E3, 0x8E3, 220), (0x8E4, 0x8E5, 230),
   (0x8E6, 0x8E6, 220), (0x8E7, 0x8E8, 230), (0x8E9, 0x8E9, 220), (0x8EA, 0x8EC, 230),
   (0x8ED, 0x8EF, 220), (0x8F0, 0x8F0, 27), (0x8F1, 0x8F1, 28), (0x8F2, 0x8F2, 29),
   (0x8F3, 0x8F5, 230), (0x8F6, 0x8F6, 220), (0x8F7, 0x8F8, 230), (0x8F9, 0x8FA, 220),
   (0x8FB, 0x8FF, 230), (0x93C, 0x93C, 7), (0x94D, 0x94D, 9), (0x951, 0x951, 230),
   (0x952, 0x952, 220), (0x953, 0x954, 230), (0x9BC, 0x9BC, 7), (0x9CD, 0x9CD, 9),
   (0x9FE, 0x9FE, 230), (0xA3C, 0xA3C, 7), (0xA4D, 0xA4D, 9), (0xABC, 0xABC, 7), (0xACD, 0xACD, 9),
   (0xB3C, 0xB3C, 7), (0xB4D, 0xB4D, 9), (0xBCD, 0xBCD, 9), (0xC3C, 0xC3C, 7), (0xC4D, 0xC4D, 9),
   (0xC55, 0xC55, 84), (0xC56, 0xC56, 91), (0xCBC, 0xCBC, 7), (0xCCD, 0xCCD, 9), (0xD3B, 0xD3C, 9),
   (0xD4D, 0xD4D, 9), (0xDCA, 0xDCA, 9), (0xE38, 0xE39, 103), (0xE3A, 0xE3A, 9),
   (0xE48, 0xE4B, 107), (0xEB8, 0xEB9, 118), (0xEBA, 0xEBA, 9), (0xEC8, 0xECB, 122),
   (0xF18, 0xF19, 220), (0xF35, 0xF35, 220), (0xF37, 0xF37, 220), (0xF39, 0xF39, 216),
   (0xF71, 0xF71, 129), (0xF72, 0xF72, 130), (0xF74, 0xF74, 132), (0xF7A, 0xF7D, 130),
   (0xF80, 0xF80, 130), (0xF82, 0xF83, 230), (0xF84, 0xF84, 9), (0xF86, 0xF87, 230),
   (0xFC6, 0xFC6, 220), (0x1037, 0x1037, 7), (0x1039, 0x103A, 9), (0x108D, 0x108D, 220),
   (0x135D, 0x135F, 230), (0x1714, 0x1715, 9), (0x1734, 0x1734, 9), (0x17D2, 0x17D2, 9),
   (0x17DD, 0x17DD, 230), (0x18A9, 0x18A9, 228), (0x1939, 0x1939, 222), (0x193A, 0x193A, 230),
   (0x193B, 0x193B, 220), (0x1A17, 0x1A17, 230), (0x1A18, 0x1A18, 220), (0x1A60, 0x1A60, 9),
   (0x1A75, 0x1A7C, 230), (0x1A7F, 0x1A7F, 220), (0x1AB0, 0x1AB4, 230), (0x1AB5, 0x1ABA, 220),
   (0x1ABB, 0x1ABC, 230), (0x1ABD, 0x1ABD, 220), (0x1ABF, 0x1AC0, 220), (0x1AC1, 0x1AC2, 230),
   (0x1AC3, 0x1AC4, 220), (0x1AC5, 0x1AC9, 230), (0x1ACA, 0x1ACA, 220), (0x1ACB, 0x1ACE, 230),
   (0x1B34, 0x1B34, 7), (0x1B44, 0x1B44, 9), (0x1B6B, 0x1B6B, 230), (0x1B6C, 0x1B6C, 220),
   (0x1B6D, 0x1B73, 230), (0x1BAA, 0x1BAB, 9), (0x1BE6, 0x1BE6, 7), (0x1BF2, 0x1BF3, 9),
   (0x1C37, 0x1C37, 7), (0x1CD0, 0x1CD2, 230), (0x1CD4, 0x1CD4, 1), (0x1CD5, 0x1CD9, 220),
   (0x1CDA, 0x1CDB, 230), (0x1CDC, 0x1CDF, 220), (0x1CE0, 0x1CE0, 230), (0x1CE2, 0x1CE8, 1),
   (0x1CED, 0x1CED, 220), (0x1CF4, 0x1CF4, 230), (0x1CF8, 0x1CF9, 230), (0x1DC0, 0x1DC1, 230),
   (0x1DC2, 0x1DC2, 220), (0x1DC3, 0x1DC9, 230), (0x1DCA, 0x1DCA, 220), (0x1DCB, 0x1DCC, 230),
   (0x1DCD, 0x1DCD, 234), (0x1DCE, 0x1DCE, 214), (0x1DCF, 0x1DCF, 220), (0x1DD0, 0x1DD0, 202),
   (0x1DD1, 0x1DF5, 230), (0x1DF6, 0x1DF6, 232), (0x1DF7, 0x1DF8, 228), (0x1DF9, 0x1DF9, 220),
   (0x1DFA, 0x1DFA, 218), (0x1DFB, 0x1DFB, 230), (0x1DFC, 0x1DFC, 233), (0x1DFD, 0x1DFD, 220),
   (0x1DFE, 0x1DFE, 230), (0x1DFF, 0x1DFF, 220), (0x20D0, 0x20D1, 230), (0x20D2, 0x20D3, 1),
   (0x20D4, 0x20D7, 230), (0x20D8, 0x20DA, 1), (0x20DB, 0x20DC, 230), (0x20E1, 0x20E1, 230),
   (0x20E5, 0x20E6, 1), (0x20E7, 0x20E7, 230), (0x20E8, 0x20E8, 220), (0x20E9, 0x20E9, 230),
   (0x20EA, 0x20EB, 1), (0x20EC, 0x20EF, 220), (0x20F0, 0x20F0, 230), (0x2CEF, 0x2CF1, 230),
   (0x2D7F, 0x2D7F, 9), (0x2DE0, 0x2DFF, 230), (0x302A, 0x302A, 218), (0x302B, 0x302B, 228),
   (0x302C, 0x302C, 232), (0x302D, 0x302D, 222), (0x302E, 0x302F, 224), (0x3099, 0x309A, 8),
   (0xA66F, 0xA66F, 230), (0xA674, 0xA67D, 230), (0xA69E, 0xA69F, 230), (0xA6F0, 0xA6F1, 230),
   (0xA806, 0xA806, 9), (0xA82C, 0xA82C, 9), (0xA8C4, 0xA8C4, 9), (0xA8E0, 0xA8F1, 230),
   (0xA92B, 0xA92D, 220), (0xA953, 0xA953, 9), (0xA9B3, 0xA9B3, 7), (0xA9C0, 0xA9C0, 9),
   (0xAAB0, 0xAAB0, 230), (0xAAB2, 0xAAB3, 230), (0xAAB4, 0xAAB4, 220), (0xAAB7, 0xAAB8, 230),
   (0xAABE, 0xAABF, 230), (0xAAC1, 0xAAC1, 230), (0xAAF6, 0xAAF6, 9), (0xABED, 0xABED, 9),
   (0xFB1E, 0xFB1E, 26), (0xFE20, 0xFE26, 230), (0xFE27, 0xFE2D, 220), (0xFE2E, 0xFE2F, 230),
   (0x101FD, 0x101FD, 220), (0x102E0, 0x102E0, 220), (0x10376, 0x1037A, 230),
   (0x10A0D, 0x10A0D, 220), (0x10A0F, 0x10A0F, 230), (0x10A38, 0x10A38, 230),
   (0x10A39, 0x10A39, 1), (0x10A3A, 0x10A3A, 220), (0x10A3F, 0x10A3F, 9), (0x10AE5, 0x10AE5, 230),
   (0x10AE6, 0x10AE6, 220), (0x10D24, 0x10D27, 230), (0x10EAB, 0x10EAC, 230),
   (0x10F46, 0x10F47, 220), (0x10F48, 0x10F4A, 230), (0x10F4B, 0x10F4B, 220),
   (0x10F4C, 0x10F4C, 230), (0x10F4D, 0x10F50, 220), (0x10F82, 0x10F82, 230),
   (0x10F83, 0x10F83, 220), (0x10F84, 0x10F84, 230), (0x10F85, 0x10F85, 220),
   (0x11046, 0x11046, 9), (0x11070, 0x11070, 9), (0x1107F, 0x1107F, 9), (0x110B9, 0x110B9, 9),
   (0x110BA, 0x110BA, 7), (0x11100, 0x11102, 230), (0x11133, 0x11134, 9), (0x11173, 0x11173, 7),
   (0x111C0, 0x111C0, 9), (0x111CA, 0x111CA, 7), (0x11235, 0x11235, 9), (0x11236, 0x11236, 7),
   (0x112E9, 0x112E9, 7), (0x112EA, 0x112EA, 9), (0x1133B, 0x1133C, 7), (0x1134D, 0x1134D, 9),
   (0x11366, 0x1136C, 230), (0x11370, 0x11374, 230), (0x11442, 0x11442, 9), (0x11446, 0x11446, 7),
   (0x1145E, 0x1145E, 230), (0x114C2, 0x114C2, 9), (0x114C3, 0x114C3, 7), (0x115BF, 0x115BF, 9),
   (0x115C0, 0x115C0, 7), (0x1163F, 0x1163F, 9), (0x116B6, 0x116B6, 9), (0x116B7, 0x116B7, 7),
   (0x1172B, 0x1172B, 9), (0x11839, 0x11839, 9), (0x1183A, 0x1183A, 7), (0x1193D, 0x1193E, 9),
   (0x11943, 0x11943, 7), (0x119E0, 0x119E0, 9), (0x11A34, 0x11A34, 9), (0x11A47, 0x11A47, 9),
   (0x11A99, 0x11A99, 9), (0x11C3F, 0x11C3F, 9), (0x11D42, 0x11D42, 7), (0x11D44, 0x11D45, 9),
   (0x11D97, 0x11D97, 9), (0x16AF0, 0x16AF4, 1), (0x16B30, 0x16B36, 230), (0x16FF0, 0x16FF1, 6),
   (0x1BC9E, 0x1BC9E, 1), (0x1D165, 0x1D166, 216), (0x1D167, 0x1D169, 1), (0x1D16D, 0x1D16D, 226),
   (0x1D16E, 0x1D172, 216), (0x1D17B, 0x1D182, 220), (0x1D185, 0x1D189, 230),
   (0x1D18A, 0x1D18B, 220), (0x1D1AA, 0x1D1AD, 230), (0x1D242, 0x1D244, 230),
   (0x1E000, 0x1E006, 230), (0x1E008, 0x1E018, 230), (0x1E01B, 0x1E021, 230),
   (0x1E023, 0x1E024, 230), (0x1E026, 0x1E02A, 230), (0x1E130, 0x1E136, 230),
   (0x1E2AE, 0x1E2AE, 230), (0x1E2EC, 0x1E2EF, 230), (0x1E8D0, 0x1E8D6, 220),
   (0x1E944, 0x1E949, 230), (0x1E94A, 0x1E94A, 7)]

/-! ### Single characters -/

/-- The class of a mark; other characters have the class zero. -/
def markClass (c : Char) : Nat :=
  ((markClasses.find? fun (low, high, _) => low ≤ c.toNat && c.toNat ≤ high).map
    fun (_, _, cls) => cls).getD 0

/-- The letters of a Korean syllable, whose code points are numbered through. -/
def syllableParts (index : Nat) : List Char :=
  let last := index % 28
  [Char.ofNat (0x1100 + index / 588), Char.ofNat (0x1161 + index % 588 / 28)] ++
    if last = 0 then [] else [Char.ofNat (0x11A7 + last)]

/-- What a character is made of. -/
def parts (c : Char) : List Char :=
  let n := c.toNat
  if n < 0x80 then [c]
  else if 0xAC00 ≤ n && n < 0xD7A4 then syllableParts (n - 0xAC00)
  else
    match decompositions.find? fun (first, width, text) =>
        first ≤ n && n < first + text.length / width with
    | some (first, width, text) => (text.toList.drop (width * (n - first))).take width
    | none => [c]

/-! ### Texts -/

/-- A mark put after the marks before it that are not of a higher class; the last character
    stands first. -/
def placeMark (c : Char) : List Char → List Char
  | [] => [c]
  | d :: before =>
    if 0 < markClass c && markClass c < markClass d then d :: placeMark c before
    else c :: d :: before

/-- What a text is made of, with marks in the order of their classes. -/
def decomposed (text : String) : String :=
  String.ofList ((text.toList.flatMap parts).foldl (fun done c => placeMark c done) []).reverse

/-! ### Plain texts -/

/-- The marks start after the characters of ASCII. -/
theorem all_markClasses_ge : (markClasses.all fun (low, _, _) => 0x80 ≤ low) = true := by
  decide +kernel

/-- No character of ASCII is a mark. -/
theorem markClass_of_lt {c : Char} (h : c.toNat < 0x80) : markClass c = 0 := by
  have none : (markClasses.find? fun (low, high, _) => low ≤ c.toNat && c.toNat ≤ high) = none := by
    rw [List.find?_eq_none]
    intro r hr
    have low := List.all_eq_true.mp all_markClasses_ge r hr
    simp only [decide_eq_true_eq] at low
    simp only [Bool.and_eq_true, decide_eq_true_eq]
    omega
  simp [markClass, none]

/-- A text of ASCII characters is made of itself. -/
theorem decomposed_of_ascii {text : String} (h : ∀ c ∈ text.toList, c.toNat < 0x80) :
    decomposed text = text := by
  have parts_eq (cs : List Char) (h : ∀ c ∈ cs, c.toNat < 0x80) : cs.flatMap parts = cs := by
    induction cs with
    | nil => rfl
    | cons c rest ih =>
      simp only [List.mem_cons, forall_eq_or_imp] at h
      simp [parts, h.1, ih h.2]
  have place_eq (c : Char) (hc : c.toNat < 0x80) (done : List Char) :
      placeMark c done = c :: done := by
    cases done with
    | nil => rfl
    | cons d before => simp [placeMark, markClass_of_lt hc]
  have fold_eq (cs : List Char) (h : ∀ c ∈ cs, c.toNat < 0x80) (done : List Char) :
      cs.foldl (fun done c => placeMark c done) done = cs.reverse ++ done := by
    induction cs generalizing done with
    | nil => rfl
    | cons c rest ih =>
      simp only [List.mem_cons, forall_eq_or_imp] at h
      simp [place_eq c h.1, ih h.2]
  simp [decomposed, parts_eq _ h, fold_eq _ h]

end EngineBindings.Text
