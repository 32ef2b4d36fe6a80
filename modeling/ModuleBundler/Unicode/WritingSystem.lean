import ModuleBundler.Unicode.Category

/-!
The writing system every code point belongs to, as the Unicode Character Database (version 15.0)
gives it, and the names by which writing systems are known.
-/

namespace ModuleBundler.Unicode

def writingSystems : List (String × List String) :=
  [("Adlm", ["Adlam"]), ("Aghb", ["Caucasian_Albanian"]), ("Ahom", ["Ahom"]),
   ("Arab", ["Arabic"]), ("Armi", ["Imperial_Aramaic"]), ("Armn", ["Armenian"]),
   ("Avst", ["Avestan"]), ("Bali", ["Balinese"]), ("Bamu", ["Bamum"]),
   ("Bass", ["Bassa_Vah"]), ("Batk", ["Batak"]), ("Beng", ["Bengali"]),
   ("Bhks", ["Bhaiksuki"]), ("Bopo", ["Bopomofo"]), ("Brah", ["Brahmi"]),
   ("Brai", ["Braille"]), ("Bugi", ["Buginese"]), ("Buhd", ["Buhid"]), ("Cakm", ["Chakma"]),
   ("Cans", ["Canadian_Aboriginal"]), ("Cari", ["Carian"]), ("Cham", ["Cham"]),
   ("Cher", ["Cherokee"]), ("Chrs", ["Chorasmian"]), ("Copt", ["Coptic", "Qaac"]),
   ("Cpmn", ["Cypro_Minoan"]), ("Cprt", ["Cypriot"]), ("Cyrl", ["Cyrillic"]),
   ("Deva", ["Devanagari"]), ("Diak", ["Dives_Akuru"]), ("Dogr", ["Dogra"]),
   ("Dsrt", ["Deseret"]), ("Dupl", ["Duployan"]), ("Egyp", ["Egyptian_Hieroglyphs"]),
   ("Elba", ["Elbasan"]), ("Elym", ["Elymaic"]), ("Ethi", ["Ethiopic"]),
   ("Geor", ["Georgian"]), ("Glag", ["Glagolitic"]), ("Gong", ["Gunjala_Gondi"]),
   ("Gonm", ["Masaram_Gondi"]), ("Goth", ["Gothic"]), ("Gran", ["Grantha"]),
   ("Grek", ["Greek"]), ("Gujr", ["Gujarati"]), ("Guru", ["Gurmukhi"]), ("Hang", ["Hangul"]),
   ("Hani", ["Han"]), ("Hano", ["Hanunoo"]), ("Hatr", ["Hatran"]), ("Hebr", ["Hebrew"]),
   ("Hira", ["Hiragana"]), ("Hluw", ["Anatolian_Hieroglyphs"]), ("Hmng", ["Pahawh_Hmong"]),
   ("Hmnp", ["Nyiakeng_Puachue_Hmong"]), ("Hung", ["Old_Hungarian"]),
   ("Ital", ["Old_Italic"]), ("Java", ["Javanese"]), ("Kali", ["Kayah_Li"]),
   ("Kana", ["Katakana"]), ("Kawi", ["Kawi"]), ("Khar", ["Kharoshthi"]), ("Khmr", ["Khmer"]),
   ("Khoj", ["Khojki"]), ("Kits", ["Khitan_Small_Script"]), ("Knda", ["Kannada"]),
   ("Kthi", ["Kaithi"]), ("Lana", ["Tai_Tham"]), ("Laoo", ["Lao"]), ("Latn", ["Latin"]),
   ("Lepc", ["Lepcha"]), ("Limb", ["Limbu"]), ("Lina", ["Linear_A"]), ("Linb", ["Linear_B"]),
   ("Lisu", ["Lisu"]), ("Lyci", ["Lycian"]), ("Lydi", ["Lydian"]), ("Mahj", ["Mahajani"]),
   ("Maka", ["Makasar"]), ("Mand", ["Mandaic"]), ("Mani", ["Manichaean"]),
   ("Marc", ["Marchen"]), ("Medf", ["Medefaidrin"]), ("Mend", ["Mende_Kikakui"]),
   ("Merc", ["Meroitic_Cursive"]), ("Mero", ["Meroitic_Hieroglyphs"]),
   ("Mlym", ["Malayalam"]), ("Modi", ["Modi"]), ("Mong", ["Mongolian"]), ("Mroo", ["Mro"]),
   ("Mtei", ["Meetei_Mayek"]), ("Mult", ["Multani"]), ("Mymr", ["Myanmar"]),
   ("Nagm", ["Nag_Mundari"]), ("Nand", ["Nandinagari"]), ("Narb", ["Old_North_Arabian"]),
   ("Nbat", ["Nabataean"]), ("Newa", ["Newa"]), ("Nkoo", ["Nko"]), ("Nshu", ["Nushu"]),
   ("Ogam", ["Ogham"]), ("Olck", ["Ol_Chiki"]), ("Orkh", ["Old_Turkic"]), ("Orya", ["Oriya"]),
   ("Osge", ["Osage"]), ("Osma", ["Osmanya"]), ("Ougr", ["Old_Uyghur"]),
   ("Palm", ["Palmyrene"]), ("Pauc", ["Pau_Cin_Hau"]), ("Perm", ["Old_Permic"]),
   ("Phag", ["Phags_Pa"]), ("Phli", ["Inscriptional_Pahlavi"]), ("Phlp", ["Psalter_Pahlavi"]),
   ("Phnx", ["Phoenician"]), ("Plrd", ["Miao"]), ("Prti", ["Inscriptional_Parthian"]),
   ("Rjng", ["Rejang"]), ("Rohg", ["Hanifi_Rohingya"]), ("Runr", ["Runic"]),
   ("Samr", ["Samaritan"]), ("Sarb", ["Old_South_Arabian"]), ("Saur", ["Saurashtra"]),
   ("Sgnw", ["SignWriting"]), ("Shaw", ["Shavian"]), ("Shrd", ["Sharada"]),
   ("Sidd", ["Siddham"]), ("Sind", ["Khudawadi"]), ("Sinh", ["Sinhala"]),
   ("Sogd", ["Sogdian"]), ("Sogo", ["Old_Sogdian"]), ("Sora", ["Sora_Sompeng"]),
   ("Soyo", ["Soyombo"]), ("Sund", ["Sundanese"]), ("Sylo", ["Syloti_Nagri"]),
   ("Syrc", ["Syriac"]), ("Tagb", ["Tagbanwa"]), ("Takr", ["Takri"]), ("Tale", ["Tai_Le"]),
   ("Talu", ["New_Tai_Lue"]), ("Taml", ["Tamil"]), ("Tang", ["Tangut"]),
   ("Tavt", ["Tai_Viet"]), ("Telu", ["Telugu"]), ("Tfng", ["Tifinagh"]),
   ("Tglg", ["Tagalog"]), ("Thaa", ["Thaana"]), ("Thai", ["Thai"]), ("Tibt", ["Tibetan"]),
   ("Tirh", ["Tirhuta"]), ("Tnsa", ["Tangsa"]), ("Toto", ["Toto"]), ("Ugar", ["Ugaritic"]),
   ("Vaii", ["Vai"]), ("Vith", ["Vithkuqi"]), ("Wara", ["Warang_Citi"]), ("Wcho", ["Wancho"]),
   ("Xpeo", ["Old_Persian"]), ("Xsux", ["Cuneiform"]), ("Yezi", ["Yezidi"]), ("Yiii", ["Yi"]),
   ("Zanb", ["Zanabazar_Square"]), ("Zinh", ["Inherited", "Qaai"]), ("Zyyy", ["Common"]),
   ("Zzzz", ["Unknown"])]

private def writingSystemRuns : String := String.join [
  "41Zyyy1aLatn6Zyyy1aLatn2fZyyy1LatnfZyyy1Latn5Zyyy17Latn1Zyyy1fLatn1Zyyy1c1Latn27Zyyy5Lat",
  "n5Zyyy2Bopo14Zyyy70Zinh4Grek1Zyyy3Grek2Zzzz4Grek1Zyyy1Grek4Zzzz1Grek1Zyyy1Grek1Zyyy3Grek",
  "1Zzzz1Grek1Zzzz14Grek1Zzzz3fGrekeCopt10Grek85Cyrl2Zinha9Cyrl1Zzzz26Armn2Zzzz32Armn2Zzzz3",
  "Armn1Zzzz37Hebr8Zzzz1bHebr4Zzzz6HebrbZzzz5Arab1Zyyy6Arab1ZyyyeArab1Zyyy3Arab1Zyyy20Arab1",
  "ZyyyaArabbZinh1aArab1Zinh6cArab1Zyyy22ArabeSyrc1Zzzz3cSyrc2Zzzz3Syrc30Arab32ThaaeZzzz3bN",
  "koo2Zzzz3Nkoo2eSamr2ZzzzfSamr1Zzzz1cMand2Zzzz1Mand1ZzzzbSyrc5Zzzz1fArab1Zzzz2Arab6Zzzz4a",
  "Arab1Zyyy1dArab51Deva4ZinhfDeva2Zyyy1aDeva4Beng1Zzzz8Beng2Zzzz2Beng2Zzzz16Beng1Zzzz7Beng",
  "1Zzzz1Beng3Zzzz4Beng2Zzzz9Beng2Zzzz2Beng2Zzzz4Beng8Zzzz1Beng4Zzzz2Beng1Zzzz5Beng2Zzzz19B",
  "eng2Zzzz3Guru1Zzzz6Guru4Zzzz2Guru2Zzzz16Guru1Zzzz7Guru1Zzzz2Guru1Zzzz2Guru1Zzzz2Guru2Zzz",
  "z1Guru1Zzzz5Guru4Zzzz2Guru2Zzzz3Guru3Zzzz1Guru7Zzzz4Guru1Zzzz1Guru7Zzzz11GuruaZzzz3Gujr1",
  "Zzzz9Gujr1Zzzz3Gujr1Zzzz16Gujr1Zzzz7Gujr1Zzzz2Gujr1Zzzz5Gujr2ZzzzaGujr1Zzzz3Gujr1Zzzz3Gu",
  "jr2Zzzz1GujrfZzzz4Gujr2ZzzzcGujr7Zzzz7Gujr1Zzzz3Orya1Zzzz8Orya2Zzzz2Orya2Zzzz16Orya1Zzzz",
  "7Orya1Zzzz2Orya1Zzzz5Orya2Zzzz9Orya2Zzzz2Orya2Zzzz3Orya7Zzzz3Orya4Zzzz2Orya1Zzzz5Orya2Zz",
  "zz12OryaaZzzz2Taml1Zzzz6Taml3Zzzz3Taml1Zzzz4Taml3Zzzz2Taml1Zzzz1Taml1Zzzz2Taml3Zzzz2Taml",
  "3Zzzz3Taml3ZzzzcTaml4Zzzz5Taml3Zzzz3Taml1Zzzz4Taml2Zzzz1Taml6Zzzz1TamleZzzz15Taml5ZzzzdT",
  "elu1Zzzz3Telu1Zzzz17Telu1Zzzz10Telu2Zzzz9Telu1Zzzz3Telu1Zzzz4Telu7Zzzz2Telu1Zzzz3Telu2Zz",
  "zz1Telu2Zzzz4Telu2ZzzzaTelu7Zzzz9TeludKnda1Zzzz3Knda1Zzzz17Knda1ZzzzaKnda1Zzzz5Knda2Zzzz",
  "9Knda1Zzzz3Knda1Zzzz4Knda7Zzzz2Knda6Zzzz2Knda1Zzzz4Knda2ZzzzaKnda1Zzzz3KndacZzzzdMlym1Zz",
  "zz3Mlym1Zzzz33Mlym1Zzzz3Mlym1Zzzz6Mlym4Zzzz10Mlym2Zzzz1aMlym1Zzzz3Sinh1Zzzz12Sinh3Zzzz18",
  "Sinh1Zzzz9Sinh1Zzzz1Sinh2Zzzz7Sinh3Zzzz1Sinh4Zzzz6Sinh1Zzzz1Sinh1Zzzz8Sinh6ZzzzaSinh2Zzz",
  "z3SinhcZzzz3aThai4Zzzz1Zyyy1cThai25Zzzz2Laoo1Zzzz1Laoo1Zzzz5Laoo1Zzzz18Laoo1Zzzz1Laoo1Zz",
  "zz17Laoo2Zzzz5Laoo1Zzzz1Laoo1Zzzz7Laoo1ZzzzaLaoo2Zzzz4Laoo20Zzzz48Tibt1Zzzz24Tibt4Zzzz27",
  "Tibt1Zzzz24Tibt1ZzzzfTibt1Zzzz7Tibt4Zyyy2Tibt25Zzzza0Mymr26Geor1Zzzz1Geor5Zzzz1Geor2Zzzz",
  "2bGeor1Zyyy4Geor100Hang49Ethi1Zzzz4Ethi2Zzzz7Ethi1Zzzz1Ethi1Zzzz4Ethi2Zzzz29Ethi1Zzzz4Et",
  "hi2Zzzz21Ethi1Zzzz4Ethi2Zzzz7Ethi1Zzzz1Ethi1Zzzz4Ethi2ZzzzfEthi1Zzzz39Ethi1Zzzz4Ethi2Zzz",
  "z43Ethi2Zzzz20Ethi3Zzzz1aEthi6Zzzz56Cher2Zzzz6Cher2Zzzz280Cans1dOgam3Zzzz4bRunr3ZyyybRun",
  "r7Zzzz16Tglg9Zzzz1Tglg15Hano2Zyyy9Zzzz14BuhdcZzzzdTagb1Zzzz3Tagb1Zzzz2TagbcZzzz5eKhmr2Zz",
  "zzaKhmr6ZzzzaKhmr6Zzzz2Mong2Zyyy1Mong1Zyyy14Mong6Zzzz59Mong7Zzzz2bMong5Zzzz46CansaZzzz1f",
  "Limb1ZzzzcLimb4ZzzzcLimb4Zzzz1Limb3ZzzzcLimb1eTale2Zzzz5TalebZzzz2cTalu4Zzzz1aTalu6Zzzzb",
  "Talu3Zzzz2Talu20Khmr1cBugi2Zzzz2Bugi3fLana1Zzzz1dLana2ZzzzbLana6ZzzzaLana6ZzzzeLana2Zzzz",
  "1fZinh31Zzzz4dBali3Zzzz2fBali1Zzzz40Sund34Batk8Zzzz4Batk38Lepc3ZzzzfLepc3Zzzz3Lepc30Olck",
  "9Cyrl7Zzzz2bGeor2Zzzz3Geor8Sund8Zzzz3Zinh1ZyyydZinh1Zyyy7Zinh4Zyyy1Zinh6Zyyy1Zinh3Zyyy2Z",
  "inh1Zyyy5Zzzz26Latn5Grek1Cyrl31Latn5Grek4Latn5GrekdLatn1Cyrl46Latn1Grek40Zinh100Latn16Gr",
  "ek2Zzzz6Grek2Zzzz26Grek2Zzzz6Grek2Zzzz8Grek1Zzzz1Grek1Zzzz1Grek1Zzzz1Grek1Zzzz1fGrek2Zzz",
  "z35Grek1ZzzzfGrek1ZzzzeGrek2Zzzz6Grek1Zzzz13Grek2Zzzz3Grek1Zzzz9Grek1ZzzzcZyyy2Zinh57Zyy",
  "y1ZzzzbZyyy1Latn2ZzzzbZyyy1LatnfZyyy1ZzzzdLatn3Zzzz21ZyyyfZzzz21ZinhfZzzz26Zyyy1Grek3Zyy",
  "y2Latn6Zyyy1Latn1bZyyy1Latn11Zyyy29Latn3Zyyy4Zzzz297Zyyy19ZzzzbZyyy15Zzzz3a0Zyyy100Brai2",
  "74Zyyy2Zzzz20Zyyy1Zzzz69Zyyy60Glag20Latn74Copt5Zzzz7Copt26Geor1Zzzz1Geor5Zzzz1Geor2Zzzz3",
  "8Tfng7Zzzz2TfngeZzzz1Tfng17Ethi9Zzzz7Ethi1Zzzz7Ethi1Zzzz7Ethi1Zzzz7Ethi1Zzzz7Ethi1Zzzz7E",
  "thi1Zzzz7Ethi1Zzzz7Ethi1Zzzz20Cyrl5eZyyy22Zzzz1aHani1Zzzz59HanicZzzzd6Hani1aZzzzcZyyy4Zz",
  "zz5Zyyy1Hani1Zyyy1Hani19Zyyy9Hani4Zinh2Hang8Zyyy4Hani4Zyyy1Zzzz56Hira2Zzzz2Zinh2Zyyy3Hir",
  "a1Zyyy5aKana2Zyyy3Kana5Zzzz2bBopo1Zzzz5eHang1Zzzz10Zyyy20Bopo24ZyyycZzzz10Kana1fHang1Zzz",
  "z40Zyyy1fHang51Zyyy2fKana1Zyyy58Kanaa8Zyyy19c0Hani40Zyyy5200Hani48dYiii3Zzzz37Yiii9Zzzz3",
  "0Lisu12cVaii14Zzzz60Cyrl58Bamu8Zzzz22Zyyy66Latn3Zyyy40Latn5Zzzz2Latn1Zzzz1Latn1Zzzz5Latn",
  "18ZzzzeLatn2dSylo3ZzzzaZyyy6Zzzz38Phag8Zzzz46Saur8ZzzzcSaur6Zzzz20Deva2eKali1Zyyy1Kali24",
  "RjngbZzzz1Rjng1dHang3Zzzz4eJava1Zzzz1ZyyyaJava4Zzzz2Java1fMymr1Zzzz37Cham9ZzzzeCham2Zzzz",
  "aCham2Zzzz4Cham20Mymr43Tavt18Zzzz5Tavt17MteiaZzzz6Ethi2Zzzz6Ethi2Zzzz6Ethi9Zzzz7Ethi1Zzz",
  "z7Ethi1Zzzz2bLatn1Zyyy9Latn1Grek4Latn2Zyyy4Zzzz50Cher2eMtei2ZzzzaMtei6Zzzz2ba4HangcZzzz1",
  "7Hang4Zzzz31Hang2104Zzzz16eHani2Zzzz6aHani26Zzzz7LatncZzzz5Armn5Zzzz1aHebr1Zzzz5Hebr1Zzz",
  "z1Hebr1Zzzz2Hebr1Zzzz2Hebr1ZzzzaHebr73Arab10Zzzz16bArab2Zyyy50Arab2Zzzz36Arab7Zzzz1Arab2",
  "0Zzzz10Arab10ZinhaZyyy6ZzzzeZinh2Cyrl23Zyyy1Zzzz13Zyyy1Zzzz4Zyyy4Zzzz5Arab1Zzzz87Arab2Zz",
  "zz1Zyyy1Zzzz20Zyyy1aLatn6Zyyy1aLatnbZyyyaKana1Zyyy2dKana2Zyyy1fHang3Zzzz6Hang2Zzzz6Hang2",
  "Zzzz6Hang2Zzzz3Hang3Zzzz7Zyyy1Zzzz7ZyyyaZzzz5Zyyy2ZzzzcLinb1Zzzz1aLinb1Zzzz13Linb1Zzzz2L",
  "inb1ZzzzfLinb2ZzzzeLinb22Zzzz7bLinb5Zzzz3Zyyy4Zzzz2dZyyy3Zzzz9Zyyy4fGrek1ZzzzdZyyy3Zzzz1",
  "Grek2fZzzz2dZyyy1Zinh82Zzzz1dLyci3Zzzz31CarifZzzz1Zinh1bZyyy4Zzzz24Ital9Zzzz3Ital1bGoth5",
  "Zzzz2bPerm5Zzzz1eUgar1Zzzz1Ugar24Xpeo4ZzzzeXpeo2aZzzz50Dsrt30Shaw1eOsma2ZzzzaOsma6Zzzz24",
  "Osge4Zzzz24Osge4Zzzz28Elba8Zzzz34AghbbZzzz1AghbbVith1ZzzzfVith1Zzzz7Vith1Zzzz2Vith1Zzzzb",
  "Vith1ZzzzfVith1Zzzz7Vith1Zzzz2Vith43Zzzz137Lina9Zzzz16LinaaZzzz8Lina18Zzzz6Latn1Zzzz2aLa",
  "tn1Zzzz9Latn45Zzzz6Cprt2Zzzz1Cprt1Zzzz2cCprt1Zzzz2Cprt3Zzzz1Cprt2Zzzz1Cprt16Armi1Zzzz9Ar",
  "mi20Palm1fNbat8Zzzz9Nbat30Zzzz13Hatr1Zzzz2Hatr5Zzzz5Hatr1cPhnx3Zzzz1Phnx1aLydi5Zzzz1Lydi",
  "40Zzzz20Mero18Merc4Zzzz14Merc2Zzzz2eMerc4Khar1Zzzz2Khar5Zzzz8Khar1Zzzz3Khar1Zzzz1dKhar2Z",
  "zzz3Khar4ZzzzaKhar7Zzzz9Khar7Zzzz20Sarb20Narb20Zzzz27Mani4ZzzzcMani9Zzzz36Avst3Zzzz7Avst",
  "16Prti2Zzzz8Prti13Phli5Zzzz8Phli12Phlp7Zzzz4PhlpcZzzz7Phlp50Zzzz49Orkh37Zzzz33HungdZzzz3",
  "3Hung7Zzzz6Hung28Rohg8ZzzzaRohg126Zzzz1fArab1Zzzz2aYezi1Zzzz3Yezi2Zzzz2Yezi4bZzzz3Arab28",
  "Sogo8Zzzz2aSogd16Zzzz1aOugr26Zzzz1cChrs14Zzzz17Elym9Zzzz4eBrah4Zzzz24Brah9Zzzz1Brah43Kth",
  "iaZzzz1Kthi2Zzzz19Sora7ZzzzaSora6Zzzz35Cakm1Zzzz12Cakm8Zzzz27Mahj9Zzzz60Shrd1Zzzz14Sinhb",
  "Zzzz12Khoj1Zzzz2fKhoj3eZzzz7Mult1Zzzz1Mult1Zzzz4Mult1ZzzzfMult1ZzzzbMult6Zzzz3bSind5Zzzz",
  "aSind6Zzzz4Gran1Zzzz8Gran2Zzzz2Gran2Zzzz16Gran1Zzzz7Gran1Zzzz2Gran1Zzzz5Gran1Zzzz1Zinh9G",
  "ran2Zzzz2Gran2Zzzz3Gran2Zzzz1Gran6Zzzz1Gran5Zzzz7Gran2Zzzz7Gran3Zzzz5Gran8bZzzz5cNewa1Zz",
  "zz5Newa1eZzzz48Tirh8ZzzzaTirha6Zzzz36Sidd2Zzzz26Sidd22Zzzz45ModibZzzzaModi6ZzzzdMong13Zz",
  "zz3aTakr6ZzzzaTakr36Zzzz1bAhom2ZzzzfAhom4Zzzz17Ahomb9Zzzz3cDogr64Zzzz53WaracZzzz1Wara7Di",
  "ak2Zzzz1Diak2Zzzz8Diak1Zzzz2Diak1Zzzz1eDiak1Zzzz2Diak2ZzzzcDiak9ZzzzaDiak46Zzzz8Nand2Zzz",
  "z2eNand2ZzzzbNand1bZzzz48Zanb8Zzzz53SoyodZzzz10Cans39Pauc7ZzzzaDevaf6Zzzz9Bhks1Zzzz2dBhk",
  "s1ZzzzeBhksaZzzz1dBhks3Zzzz20Marc2Zzzz16Marc1ZzzzeMarc49Zzzz7Gonm1Zzzz2Gonm1Zzzz2cGonm3Z",
  "zzz1Gonm1Zzzz2Gonm1Zzzz9Gonm8ZzzzaGonm6Zzzz6Gong1Zzzz2Gong1Zzzz25Gong1Zzzz2Gong1Zzzz6Gon",
  "g7ZzzzaGong136Zzzz19Maka7Zzzz11Kawi1Zzzz29Kawi3Zzzz1cKawi56Zzzz1LisufZzzz32TamldZzzz1Tam",
  "l39aXsux66Zzzz6fXsux1Zzzz5XsuxbZzzzc4Xsuxa4cZzzz63CpmndZzzz456EgypfaaZzzz247Hluw21b9Zzzz",
  "239Bamu7Zzzz1fMroo1ZzzzaMroo4Zzzz2Mroo4fTnsa1ZzzzaTnsa6Zzzz1eBass2Zzzz6BassaZzzz46HmngaZ",
  "zzzaHmng1Zzzz7Hmng1Zzzz15Hmng5Zzzz13Hmng2b0Zzzz5bMedf65Zzzz4bPlrd4Zzzz39Plrd7Zzzz11Plrd4",
  "0Zzzz1Tang1Nshu2Hani1KitsbZzzz2HanieZzzz17f8Tang8Zzzz300Tang1d6Kits2aZzzz9Tang22e7Zzzz4K",
  "ana1Zzzz7Kana1Zzzz2Kana1Zzzz1Kana11fHira3KanafZzzz1Hira1dZzzz3Hira2Zzzz1KanaeZzzz4Kana8Z",
  "zzz18cNshu904Zzzz6bDupl5ZzzzdDupl3Zzzz9Dupl7ZzzzaDupl2Zzzz4Dupl4Zyyy125cZzzz2eZinh2Zzzz1",
  "7Zinh9Zzzz74Zyyy3cZzzzf6ZyyyaZzzz27Zyyy2Zzzz3eZyyy3Zinh11Zyyy8Zinh2Zyyy7Zinh1eZyyy4Zinh3",
  "dZyyy15Zzzz46Grek7aZzzz14ZyyycZzzz14ZyyycZzzz57Zyyy9Zzzz19Zyyy87Zzzz55Zyyy1Zzzz47Zyyy1Zz",
  "zz2Zyyy2Zzzz1Zyyy2Zzzz2Zyyy2Zzzz4Zyyy1ZzzzcZyyy1Zzzz1Zyyy1Zzzz7Zyyy1Zzzz41Zyyy1Zzzz4Zyyy",
  "2Zzzz8Zyyy1Zzzz7Zyyy1Zzzz1cZyyy1Zzzz4Zyyy1Zzzz5Zyyy1Zzzz1Zyyy3Zzzz7Zyyy1Zzzz154Zyyy2Zzzz",
  "124Zyyy2Zzzz32Zyyy28cSgnwfZzzz5Sgnw1ZzzzfSgnw450Zzzz1fLatn6Zzzz6Latnd5Zzzz7Glag1Zzzz11Gl",
  "ag2Zzzz7Glag1Zzzz2Glag1Zzzz5Glag5Zzzz3eCyrl21Zzzz1Cyrl70Zzzz2dHmnp3ZzzzeHmnp2ZzzzaHmnp4Z",
  "zzz2Hmnp140Zzzz1fToto11Zzzz3aWcho5Zzzz1Wcho1d0Zzzz2aNagm2e6Zzzz7Ethi1Zzzz4Ethi1Zzzz2Ethi",
  "1ZzzzfEthi1Zzzzc5Mend2Zzzz10Mend29Zzzz4cAdlm4ZzzzaAdlm4Zzzz2Adlm311Zzzz44Zyyy4cZzzz3dZyy",
  "yc2Zzzz4Arab1Zzzz1bArab1Zzzz2Arab1Zzzz1Arab2Zzzz1Arab1ZzzzaArab1Zzzz4Arab1Zzzz1Arab1Zzzz",
  "1Arab6Zzzz1Arab4Zzzz1Arab1Zzzz1Arab1Zzzz1Arab1Zzzz3Arab1Zzzz2Arab1Zzzz1Arab2Zzzz1Arab1Zz",
  "zz1Arab1Zzzz1Arab1Zzzz1Arab1Zzzz1Arab1Zzzz2Arab1Zzzz1Arab2Zzzz4Arab1Zzzz7Arab1Zzzz4Arab1",
  "Zzzz4Arab1Zzzz1Arab1ZzzzaArab1Zzzz11Arab5Zzzz3Arab1Zzzz5Arab1Zzzz11Arab34Zzzz2Arab10eZzz",
  "z2cZyyy4Zzzz64ZyyycZzzzfZyyy2ZzzzfZyyy1ZzzzfZyyy1Zzzz25ZyyyaZzzzaeZyyy38Zzzz1aZyyy1Hira2",
  "ZyyydZzzz2cZyyy4Zzzz9Zyyy7Zzzz2ZyyyeZzzz6Zyyy9aZzzz3d8Zyyy4Zzzz11Zyyy3ZzzzdZyyy3Zzzz77Zy",
  "yy4Zzzz5fZyyy6ZzzzcZyyy4Zzzz1ZyyyfZzzzcZyyy4Zzzz38Zyyy8ZzzzaZyyy6Zzzz28Zyyy8Zzzz1eZyyy2Z",
  "zzz2Zyyy4eZzzz154ZyyycZzzzeZyyy2ZzzzdZyyy3Zzzz9Zyyy7Zzzz2eZyyy1Zzzz7Zyyy8ZzzzeZyyy4Zzzz9",
  "Zyyy7Zzzz9Zyyy7Zzzz93Zyyy1Zzzz37Zyyy25ZzzzaZyyy406Zzzza6e0Hani20Zzzz103aHani6ZzzzdeHani2",
  "Zzzz1682HanieZzzz1d31Hanic1fZzzz21eHani5e2Zzzz134bHani5Zzzz1060Haniadc51Zzzz1Zyyy1eZzzz6",
  "0Zyyy80Zzzzf0Zinh2fe10Zzzz"]

def writingSystemTable : Array (Nat × String) :=
  (decodeRuns 4 0 writingSystemRuns.toList 0 []).toArray

def writingSystem (c : Char) : String :=
  match writingSystemTable[lastAtMost writingSystemTable c.toNat 0 writingSystemTable.size]? with
  | some (_, found) => found
  | none => "Zzzz"

end ModuleBundler.Unicode
