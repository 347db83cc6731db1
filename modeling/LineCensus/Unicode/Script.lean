import LineCensus.Unicode.RunTable

/-!
# LineCensus.Unicode.Script — the script that a character is used in

1. `script`: the four-letter code of a character's script (`Latn`, `Grek`, `Zyyy` for the
   characters that several scripts share).
2. `script?`: the code that a script's name stands for, with the name in lower case and without
   spaces, hyphens and underscores.
-/

namespace LineCensus.Unicode

/-- How many code points follow one another in one script, from zero on. -/
def scriptRuns : RunTable String := .ofRuns
  "65 Zyyy 26 Latn 6 Zyyy 26 Latn 47 Zyyy 1 Latn 15 Zyyy 1 Latn 5 Zyyy 23 Latn 1 Zyyy 31 Latn 1
   Zyyy 449 Latn 39 Zyyy 5 Latn 5 Zyyy 2 Bopo 20 Zyyy 112 Zinh 4 Grek 1 Zyyy 3 Grek 2 Zzzz 4 Grek
   1 Zyyy 1 Grek 4 Zzzz 1 Grek 1 Zyyy 1 Grek 1 Zyyy 3 Grek 1 Zzzz 1 Grek 1 Zzzz 20 Grek 1 Zzzz 63
   Grek 14 Copt 16 Grek 133 Cyrl 2 Zinh 169 Cyrl 1 Zzzz 38 Armn 2 Zzzz 50 Armn 2 Zzzz 3 Armn 1
   Zzzz 55 Hebr 8 Zzzz 27 Hebr 4 Zzzz 6 Hebr 11 Zzzz 5 Arab 1 Zyyy 6 Arab 1 Zyyy 14 Arab 1 Zyyy 3
   Arab 1 Zyyy 32 Arab 1 Zyyy 10 Arab 11 Zinh 26 Arab 1 Zinh 108 Arab 1 Zyyy 34 Arab 14 Syrc 1
   Zzzz 60 Syrc 2 Zzzz 3 Syrc 48 Arab 50 Thaa 14 Zzzz 59 Nkoo 2 Zzzz 3 Nkoo 46 Samr 2 Zzzz 15
   Samr 1 Zzzz 28 Mand 2 Zzzz 1 Mand 1 Zzzz 11 Syrc 5 Zzzz 34 Arab 5 Zzzz 75 Arab 1 Zyyy 29 Arab
   81 Deva 4 Zinh 15 Deva 2 Zyyy 26 Deva 4 Beng 1 Zzzz 8 Beng 2 Zzzz 2 Beng 2 Zzzz 22 Beng 1 Zzzz
   7 Beng 1 Zzzz 1 Beng 3 Zzzz 4 Beng 2 Zzzz 9 Beng 2 Zzzz 2 Beng 2 Zzzz 4 Beng 8 Zzzz 1 Beng 4
   Zzzz 2 Beng 1 Zzzz 5 Beng 2 Zzzz 25 Beng 2 Zzzz 3 Guru 1 Zzzz 6 Guru 4 Zzzz 2 Guru 2 Zzzz 22
   Guru 1 Zzzz 7 Guru 1 Zzzz 2 Guru 1 Zzzz 2 Guru 1 Zzzz 2 Guru 2 Zzzz 1 Guru 1 Zzzz 5 Guru 4
   Zzzz 2 Guru 2 Zzzz 3 Guru 3 Zzzz 1 Guru 7 Zzzz 4 Guru 1 Zzzz 1 Guru 7 Zzzz 17 Guru 10 Zzzz 3
   Gujr 1 Zzzz 9 Gujr 1 Zzzz 3 Gujr 1 Zzzz 22 Gujr 1 Zzzz 7 Gujr 1 Zzzz 2 Gujr 1 Zzzz 5 Gujr 2
   Zzzz 10 Gujr 1 Zzzz 3 Gujr 1 Zzzz 3 Gujr 2 Zzzz 1 Gujr 15 Zzzz 4 Gujr 2 Zzzz 12 Gujr 7 Zzzz 7
   Gujr 1 Zzzz 3 Orya 1 Zzzz 8 Orya 2 Zzzz 2 Orya 2 Zzzz 22 Orya 1 Zzzz 7 Orya 1 Zzzz 2 Orya 1
   Zzzz 5 Orya 2 Zzzz 9 Orya 2 Zzzz 2 Orya 2 Zzzz 3 Orya 7 Zzzz 3 Orya 4 Zzzz 2 Orya 1 Zzzz 5
   Orya 2 Zzzz 18 Orya 10 Zzzz 2 Taml 1 Zzzz 6 Taml 3 Zzzz 3 Taml 1 Zzzz 4 Taml 3 Zzzz 2 Taml 1
   Zzzz 1 Taml 1 Zzzz 2 Taml 3 Zzzz 2 Taml 3 Zzzz 3 Taml 3 Zzzz 12 Taml 4 Zzzz 5 Taml 3 Zzzz 3
   Taml 1 Zzzz 4 Taml 2 Zzzz 1 Taml 6 Zzzz 1 Taml 14 Zzzz 21 Taml 5 Zzzz 13 Telu 1 Zzzz 3 Telu 1
   Zzzz 23 Telu 1 Zzzz 16 Telu 2 Zzzz 9 Telu 1 Zzzz 3 Telu 1 Zzzz 4 Telu 7 Zzzz 2 Telu 1 Zzzz 3
   Telu 1 Zzzz 2 Telu 2 Zzzz 4 Telu 2 Zzzz 10 Telu 7 Zzzz 9 Telu 13 Knda 1 Zzzz 3 Knda 1 Zzzz 23
   Knda 1 Zzzz 10 Knda 1 Zzzz 5 Knda 2 Zzzz 9 Knda 1 Zzzz 3 Knda 1 Zzzz 4 Knda 7 Zzzz 2 Knda 5
   Zzzz 3 Knda 1 Zzzz 4 Knda 2 Zzzz 10 Knda 1 Zzzz 3 Knda 12 Zzzz 13 Mlym 1 Zzzz 3 Mlym 1 Zzzz 51
   Mlym 1 Zzzz 3 Mlym 1 Zzzz 6 Mlym 4 Zzzz 16 Mlym 2 Zzzz 26 Mlym 1 Zzzz 3 Sinh 1 Zzzz 18 Sinh 3
   Zzzz 24 Sinh 1 Zzzz 9 Sinh 1 Zzzz 1 Sinh 2 Zzzz 7 Sinh 3 Zzzz 1 Sinh 4 Zzzz 6 Sinh 1 Zzzz 1
   Sinh 1 Zzzz 8 Sinh 6 Zzzz 10 Sinh 2 Zzzz 3 Sinh 12 Zzzz 58 Thai 4 Zzzz 1 Zyyy 28 Thai 37 Zzzz
   2 Laoo 1 Zzzz 1 Laoo 1 Zzzz 5 Laoo 1 Zzzz 24 Laoo 1 Zzzz 1 Laoo 1 Zzzz 23 Laoo 2 Zzzz 5 Laoo 1
   Zzzz 1 Laoo 1 Zzzz 7 Laoo 1 Zzzz 10 Laoo 2 Zzzz 4 Laoo 32 Zzzz 72 Tibt 1 Zzzz 36 Tibt 4 Zzzz
   39 Tibt 1 Zzzz 36 Tibt 1 Zzzz 15 Tibt 1 Zzzz 7 Tibt 4 Zyyy 2 Tibt 37 Zzzz 160 Mymr 38 Geor 1
   Zzzz 1 Geor 5 Zzzz 1 Geor 2 Zzzz 43 Geor 1 Zyyy 4 Geor 256 Hang 73 Ethi 1 Zzzz 4 Ethi 2 Zzzz 7
   Ethi 1 Zzzz 1 Ethi 1 Zzzz 4 Ethi 2 Zzzz 41 Ethi 1 Zzzz 4 Ethi 2 Zzzz 33 Ethi 1 Zzzz 4 Ethi 2
   Zzzz 7 Ethi 1 Zzzz 1 Ethi 1 Zzzz 4 Ethi 2 Zzzz 15 Ethi 1 Zzzz 57 Ethi 1 Zzzz 4 Ethi 2 Zzzz 67
   Ethi 2 Zzzz 32 Ethi 3 Zzzz 26 Ethi 6 Zzzz 86 Cher 2 Zzzz 6 Cher 2 Zzzz 640 Cans 29 Ogam 3 Zzzz
   75 Runr 3 Zyyy 11 Runr 7 Zzzz 22 Tglg 9 Zzzz 1 Tglg 21 Hano 2 Zyyy 9 Zzzz 20 Buhd 12 Zzzz 13
   Tagb 1 Zzzz 3 Tagb 1 Zzzz 2 Tagb 12 Zzzz 94 Khmr 2 Zzzz 10 Khmr 6 Zzzz 10 Khmr 6 Zzzz 2 Mong 2
   Zyyy 1 Mong 1 Zyyy 20 Mong 6 Zzzz 89 Mong 7 Zzzz 43 Mong 5 Zzzz 70 Cans 10 Zzzz 31 Limb 1 Zzzz
   12 Limb 4 Zzzz 12 Limb 4 Zzzz 1 Limb 3 Zzzz 12 Limb 30 Tale 2 Zzzz 5 Tale 11 Zzzz 44 Talu 4
   Zzzz 26 Talu 6 Zzzz 11 Talu 3 Zzzz 2 Talu 32 Khmr 28 Bugi 2 Zzzz 2 Bugi 63 Lana 1 Zzzz 29 Lana
   2 Zzzz 11 Lana 6 Zzzz 10 Lana 6 Zzzz 14 Lana 2 Zzzz 46 Zinh 2 Zzzz 12 Zinh 20 Zzzz 77 Bali 1
   Zzzz 50 Bali 64 Sund 52 Batk 8 Zzzz 4 Batk 56 Lepc 3 Zzzz 15 Lepc 3 Zzzz 3 Lepc 48 Olck 11
   Cyrl 5 Zzzz 43 Geor 2 Zzzz 3 Geor 8 Sund 8 Zzzz 3 Zinh 1 Zyyy 13 Zinh 1 Zyyy 7 Zinh 4 Zyyy 1
   Zinh 6 Zyyy 1 Zinh 3 Zyyy 2 Zinh 1 Zyyy 5 Zzzz 38 Latn 5 Grek 1 Cyrl 49 Latn 5 Grek 4 Latn 5
   Grek 13 Latn 1 Cyrl 70 Latn 1 Grek 64 Zinh 256 Latn 22 Grek 2 Zzzz 6 Grek 2 Zzzz 38 Grek 2
   Zzzz 6 Grek 2 Zzzz 8 Grek 1 Zzzz 1 Grek 1 Zzzz 1 Grek 1 Zzzz 1 Grek 1 Zzzz 31 Grek 2 Zzzz 53
   Grek 1 Zzzz 15 Grek 1 Zzzz 14 Grek 2 Zzzz 6 Grek 1 Zzzz 19 Grek 2 Zzzz 3 Grek 1 Zzzz 9 Grek 1
   Zzzz 12 Zyyy 2 Zinh 87 Zyyy 1 Zzzz 11 Zyyy 1 Latn 2 Zzzz 11 Zyyy 1 Latn 15 Zyyy 1 Zzzz 13 Latn
   3 Zzzz 34 Zyyy 14 Zzzz 33 Zinh 15 Zzzz 38 Zyyy 1 Grek 3 Zyyy 2 Latn 6 Zyyy 1 Latn 27 Zyyy 1
   Latn 17 Zyyy 41 Latn 3 Zyyy 4 Zzzz 666 Zyyy 22 Zzzz 11 Zyyy 21 Zzzz 928 Zyyy 256 Brai 628 Zyyy
   2 Zzzz 138 Zyyy 96 Glag 32 Latn 116 Copt 5 Zzzz 7 Copt 38 Geor 1 Zzzz 1 Geor 5 Zzzz 1 Geor 2
   Zzzz 56 Tfng 7 Zzzz 2 Tfng 14 Zzzz 1 Tfng 23 Ethi 9 Zzzz 7 Ethi 1 Zzzz 7 Ethi 1 Zzzz 7 Ethi 1
   Zzzz 7 Ethi 1 Zzzz 7 Ethi 1 Zzzz 7 Ethi 1 Zzzz 7 Ethi 1 Zzzz 7 Ethi 1 Zzzz 32 Cyrl 94 Zyyy 34
   Zzzz 26 Hani 1 Zzzz 89 Hani 12 Zzzz 214 Hani 26 Zzzz 21 Zyyy 1 Hani 1 Zyyy 1 Hani 25 Zyyy 9
   Hani 4 Zinh 2 Hang 8 Zyyy 4 Hani 4 Zyyy 1 Zzzz 86 Hira 2 Zzzz 2 Zinh 2 Zyyy 3 Hira 1 Zyyy 90
   Kana 2 Zyyy 3 Kana 5 Zzzz 43 Bopo 1 Zzzz 94 Hang 1 Zzzz 16 Zyyy 32 Bopo 38 Zyyy 9 Zzzz 1 Zyyy
   16 Kana 31 Hang 1 Zzzz 64 Zyyy 31 Hang 81 Zyyy 47 Kana 1 Zyyy 88 Kana 168 Zyyy 6592 Hani 64
   Zyyy 20992 Hani 1165 Yiii 3 Zzzz 55 Yiii 9 Zzzz 48 Lisu 300 Vaii 20 Zzzz 96 Cyrl 88 Bamu 8
   Zzzz 34 Zyyy 102 Latn 3 Zyyy 82 Latn 20 Zzzz 15 Latn 45 Sylo 3 Zzzz 10 Zyyy 6 Zzzz 56 Phag 8
   Zzzz 70 Saur 8 Zzzz 12 Saur 6 Zzzz 32 Deva 46 Kali 1 Zyyy 1 Kali 36 Rjng 11 Zzzz 1 Rjng 29
   Hang 3 Zzzz 78 Java 1 Zzzz 1 Zyyy 10 Java 4 Zzzz 2 Java 31 Mymr 1 Zzzz 55 Cham 9 Zzzz 14 Cham
   2 Zzzz 10 Cham 2 Zzzz 4 Cham 32 Mymr 67 Tavt 24 Zzzz 5 Tavt 23 Mtei 10 Zzzz 6 Ethi 2 Zzzz 6
   Ethi 2 Zzzz 6 Ethi 9 Zzzz 7 Ethi 1 Zzzz 7 Ethi 1 Zzzz 43 Latn 1 Zyyy 9 Latn 1 Grek 4 Latn 2
   Zyyy 4 Zzzz 80 Cher 46 Mtei 2 Zzzz 10 Mtei 6 Zzzz 11172 Hang 12 Zzzz 23 Hang 4 Zzzz 49 Hang
   8452 Zzzz 366 Hani 2 Zzzz 106 Hani 38 Zzzz 7 Latn 12 Zzzz 5 Armn 5 Zzzz 26 Hebr 1 Zzzz 5 Hebr
   1 Zzzz 1 Hebr 1 Zzzz 2 Hebr 1 Zzzz 2 Hebr 1 Zzzz 10 Hebr 494 Arab 2 Zyyy 144 Arab 32 Zzzz 16
   Arab 16 Zinh 10 Zyyy 6 Zzzz 14 Zinh 2 Cyrl 35 Zyyy 1 Zzzz 19 Zyyy 1 Zzzz 4 Zyyy 4 Zzzz 5 Arab
   1 Zzzz 135 Arab 2 Zzzz 1 Zyyy 1 Zzzz 32 Zyyy 26 Latn 6 Zyyy 26 Latn 11 Zyyy 10 Kana 1 Zyyy 45
   Kana 2 Zyyy 31 Hang 3 Zzzz 6 Hang 2 Zzzz 6 Hang 2 Zzzz 6 Hang 2 Zzzz 3 Hang 3 Zzzz 7 Zyyy 1
   Zzzz 7 Zyyy 10 Zzzz 5 Zyyy 2 Zzzz 12 Linb 1 Zzzz 26 Linb 1 Zzzz 19 Linb 1 Zzzz 2 Linb 1 Zzzz
   15 Linb 2 Zzzz 14 Linb 34 Zzzz 123 Linb 5 Zzzz 3 Zyyy 4 Zzzz 45 Zyyy 3 Zzzz 9 Zyyy 79 Grek 1
   Zzzz 13 Zyyy 3 Zzzz 1 Grek 47 Zzzz 45 Zyyy 1 Zinh 130 Zzzz 29 Lyci 3 Zzzz 49 Cari 15 Zzzz 1
   Zinh 27 Zyyy 4 Zzzz 36 Ital 9 Zzzz 3 Ital 27 Goth 5 Zzzz 43 Perm 5 Zzzz 30 Ugar 1 Zzzz 1 Ugar
   36 Xpeo 4 Zzzz 14 Xpeo 42 Zzzz 80 Dsrt 48 Shaw 30 Osma 2 Zzzz 10 Osma 6 Zzzz 36 Osge 4 Zzzz 36
   Osge 4 Zzzz 40 Elba 8 Zzzz 52 Aghb 11 Zzzz 1 Aghb 11 Vith 1 Zzzz 15 Vith 1 Zzzz 7 Vith 1 Zzzz
   2 Vith 1 Zzzz 11 Vith 1 Zzzz 15 Vith 1 Zzzz 7 Vith 1 Zzzz 2 Vith 3 Zzzz 52 Todr 12 Zzzz 311
   Lina 9 Zzzz 22 Lina 10 Zzzz 8 Lina 24 Zzzz 6 Latn 1 Zzzz 42 Latn 1 Zzzz 9 Latn 69 Zzzz 6 Cprt
   2 Zzzz 1 Cprt 1 Zzzz 44 Cprt 1 Zzzz 2 Cprt 3 Zzzz 1 Cprt 2 Zzzz 1 Cprt 22 Armi 1 Zzzz 9 Armi
   32 Palm 31 Nbat 8 Zzzz 9 Nbat 48 Zzzz 19 Hatr 1 Zzzz 2 Hatr 5 Zzzz 5 Hatr 28 Phnx 3 Zzzz 1
   Phnx 26 Lydi 5 Zzzz 1 Lydi 26 Sidt 38 Zzzz 32 Mero 24 Merc 4 Zzzz 20 Merc 2 Zzzz 46 Merc 4
   Khar 1 Zzzz 2 Khar 5 Zzzz 8 Khar 1 Zzzz 3 Khar 1 Zzzz 29 Khar 2 Zzzz 3 Khar 4 Zzzz 10 Khar 7
   Zzzz 9 Khar 7 Zzzz 32 Sarb 32 Narb 32 Zzzz 39 Mani 4 Zzzz 12 Mani 9 Zzzz 54 Avst 3 Zzzz 7 Avst
   22 Prti 2 Zzzz 8 Prti 19 Phli 5 Zzzz 8 Phli 18 Phlp 7 Zzzz 4 Phlp 12 Zzzz 7 Phlp 80 Zzzz 73
   Orkh 55 Zzzz 51 Hung 13 Zzzz 51 Hung 7 Zzzz 6 Hung 40 Rohg 8 Zzzz 10 Rohg 6 Zzzz 38 Gara 3
   Zzzz 29 Gara 8 Zzzz 2 Gara 208 Zzzz 31 Arab 1 Zzzz 42 Yezi 1 Zzzz 3 Yezi 2 Zzzz 2 Yezi 16 Zzzz
   6 Arab 8 Zzzz 9 Arab 33 Zzzz 6 Arab 40 Sogo 8 Zzzz 42 Sogd 22 Zzzz 26 Ougr 38 Zzzz 28 Chrs 20
   Zzzz 23 Elym 9 Zzzz 78 Brah 4 Zzzz 36 Brah 9 Zzzz 1 Brah 67 Kthi 10 Zzzz 1 Kthi 2 Zzzz 25 Sora
   7 Zzzz 10 Sora 6 Zzzz 53 Cakm 1 Zzzz 18 Cakm 8 Zzzz 39 Mahj 9 Zzzz 96 Shrd 1 Zzzz 20 Sinh 11
   Zzzz 18 Khoj 1 Zzzz 47 Khoj 62 Zzzz 7 Mult 1 Zzzz 1 Mult 1 Zzzz 4 Mult 1 Zzzz 15 Mult 1 Zzzz
   11 Mult 6 Zzzz 59 Sind 5 Zzzz 10 Sind 6 Zzzz 4 Gran 1 Zzzz 8 Gran 2 Zzzz 2 Gran 2 Zzzz 22 Gran
   1 Zzzz 7 Gran 1 Zzzz 2 Gran 1 Zzzz 5 Gran 1 Zzzz 1 Zinh 9 Gran 2 Zzzz 2 Gran 2 Zzzz 3 Gran 2
   Zzzz 1 Gran 6 Zzzz 1 Gran 5 Zzzz 7 Gran 2 Zzzz 7 Gran 3 Zzzz 5 Gran 11 Zzzz 10 Tutg 1 Zzzz 1
   Tutg 2 Zzzz 1 Tutg 1 Zzzz 38 Tutg 1 Zzzz 10 Tutg 1 Zzzz 1 Tutg 2 Zzzz 1 Tutg 1 Zzzz 4 Tutg 1
   Zzzz 10 Tutg 1 Zzzz 2 Tutg 8 Zzzz 2 Tutg 29 Zzzz 92 Newa 1 Zzzz 5 Newa 30 Zzzz 72 Tirh 8 Zzzz
   10 Tirh 166 Zzzz 54 Sidd 2 Zzzz 38 Sidd 34 Zzzz 69 Modi 11 Zzzz 10 Modi 6 Zzzz 13 Mong 19 Zzzz
   58 Takr 6 Zzzz 10 Takr 6 Zzzz 20 Mymr 28 Zzzz 27 Ahom 2 Zzzz 15 Ahom 4 Zzzz 23 Ahom 185 Zzzz
   60 Dogr 100 Zzzz 83 Wara 12 Zzzz 1 Wara 7 Diak 2 Zzzz 1 Diak 2 Zzzz 8 Diak 1 Zzzz 2 Diak 1
   Zzzz 30 Diak 1 Zzzz 2 Diak 2 Zzzz 12 Diak 9 Zzzz 10 Diak 70 Zzzz 8 Nand 2 Zzzz 46 Nand 2 Zzzz
   11 Nand 27 Zzzz 72 Zanb 8 Zzzz 83 Soyo 13 Zzzz 16 Cans 57 Pauc 7 Zzzz 10 Deva 86 Zzzz 8 Shrd
   88 Zzzz 34 Sunu 14 Zzzz 10 Sunu 6 Zzzz 9 Bhks 1 Zzzz 45 Bhks 1 Zzzz 14 Bhks 10 Zzzz 29 Bhks 3
   Zzzz 32 Marc 2 Zzzz 22 Marc 1 Zzzz 14 Marc 73 Zzzz 7 Gonm 1 Zzzz 2 Gonm 1 Zzzz 44 Gonm 3 Zzzz
   1 Gonm 1 Zzzz 2 Gonm 1 Zzzz 9 Gonm 8 Zzzz 10 Gonm 6 Zzzz 6 Gong 1 Zzzz 2 Gong 1 Zzzz 37 Gong 1
   Zzzz 2 Gong 1 Zzzz 6 Gong 7 Zzzz 10 Gong 6 Zzzz 44 Tols 4 Zzzz 10 Tols 246 Zzzz 25 Maka 7 Zzzz
   17 Kawi 1 Zzzz 41 Kawi 3 Zzzz 29 Kawi 85 Zzzz 1 Lisu 15 Zzzz 50 Taml 13 Zzzz 1 Taml 922 Xsux
   102 Zzzz 111 Xsux 1 Zzzz 5 Xsux 11 Zzzz 196 Xsux 2636 Zzzz 99 Cpmn 13 Zzzz 1110 Egyp 10 Zzzz
   3995 Egyp 5 Zzzz 583 Hluw 6841 Zzzz 58 Gukh 1734 Zzzz 569 Bamu 7 Zzzz 31 Mroo 1 Zzzz 10 Mroo 4
   Zzzz 2 Mroo 79 Tnsa 1 Zzzz 10 Tnsa 6 Zzzz 30 Bass 2 Zzzz 6 Bass 10 Zzzz 70 Hmng 10 Zzzz 10
   Hmng 1 Zzzz 7 Hmng 1 Zzzz 21 Hmng 5 Zzzz 19 Hmng 432 Zzzz 58 Krai 198 Zzzz 91 Medf 5 Zzzz 25
   Berf 2 Zzzz 25 Berf 44 Zzzz 75 Plrd 4 Zzzz 57 Plrd 7 Zzzz 17 Plrd 64 Zzzz 1 Tang 1 Nshu 2 Hani
   1 Kits 11 Zzzz 7 Hani 9 Zzzz 6912 Tang 470 Kits 41 Zzzz 1 Kits 31 Tang 97 Zzzz 115 Tang 8701
   Zzzz 4 Kana 1 Zzzz 7 Kana 1 Zzzz 2 Kana 1 Zzzz 1 Kana 287 Hira 3 Kana 15 Zzzz 1 Hira 29 Zzzz 3
   Hira 2 Zzzz 1 Kana 14 Zzzz 4 Kana 8 Zzzz 396 Nshu 2308 Zzzz 107 Dupl 5 Zzzz 13 Dupl 3 Zzzz 9
   Dupl 7 Zzzz 10 Dupl 2 Zzzz 4 Dupl 4 Zyyy 3932 Zzzz 253 Zyyy 3 Zzzz 436 Zyyy 6 Zzzz 23 Zyyy 15
   Zzzz 17 Zyyy 15 Zzzz 46 Zinh 2 Zzzz 23 Zinh 9 Zzzz 116 Zyyy 60 Zzzz 246 Zyyy 10 Zzzz 39 Zyyy 2
   Zzzz 62 Zyyy 3 Zinh 17 Zyyy 8 Zinh 2 Zyyy 7 Zinh 30 Zyyy 4 Zinh 61 Zyyy 21 Zzzz 70 Grek 122
   Zzzz 20 Zyyy 12 Zzzz 20 Zyyy 12 Zzzz 87 Zyyy 9 Zzzz 25 Zyyy 135 Zzzz 85 Zyyy 1 Zzzz 71 Zyyy 1
   Zzzz 2 Zyyy 2 Zzzz 1 Zyyy 2 Zzzz 2 Zyyy 2 Zzzz 4 Zyyy 1 Zzzz 12 Zyyy 1 Zzzz 1 Zyyy 1 Zzzz 7
   Zyyy 1 Zzzz 65 Zyyy 1 Zzzz 4 Zyyy 2 Zzzz 8 Zyyy 1 Zzzz 7 Zyyy 1 Zzzz 28 Zyyy 1 Zzzz 4 Zyyy 1
   Zzzz 5 Zyyy 1 Zzzz 1 Zyyy 3 Zzzz 7 Zyyy 1 Zzzz 340 Zyyy 2 Zzzz 292 Zyyy 2 Zzzz 50 Zyyy 652
   Sgnw 15 Zzzz 5 Sgnw 1 Zzzz 15 Sgnw 1104 Zzzz 31 Latn 6 Zzzz 6 Latn 213 Zzzz 7 Glag 1 Zzzz 17
   Glag 2 Zzzz 7 Glag 1 Zzzz 2 Glag 1 Zzzz 5 Glag 5 Zzzz 62 Cyrl 33 Zzzz 1 Cyrl 112 Zzzz 45 Hmnp
   3 Zzzz 14 Hmnp 2 Zzzz 10 Hmnp 4 Zzzz 2 Hmnp 320 Zzzz 31 Toto 17 Zzzz 58 Wcho 5 Zzzz 1 Wcho 464
   Zzzz 42 Nagm 214 Zzzz 43 Onao 4 Zzzz 1 Onao 192 Zzzz 31 Tayo 1 Zzzz 22 Tayo 8 Zzzz 2 Tayo 224
   Zzzz 7 Ethi 1 Zzzz 4 Ethi 1 Zzzz 2 Ethi 1 Zzzz 15 Ethi 1 Zzzz 197 Mend 2 Zzzz 16 Mend 41 Zzzz
   76 Adlm 4 Zzzz 10 Adlm 4 Zzzz 2 Adlm 785 Zzzz 68 Zyyy 76 Zzzz 61 Zyyy 194 Zzzz 4 Arab 1 Zzzz
   27 Arab 1 Zzzz 2 Arab 1 Zzzz 1 Arab 2 Zzzz 1 Arab 1 Zzzz 10 Arab 1 Zzzz 4 Arab 1 Zzzz 1 Arab 1
   Zzzz 1 Arab 6 Zzzz 1 Arab 4 Zzzz 1 Arab 1 Zzzz 1 Arab 1 Zzzz 1 Arab 1 Zzzz 3 Arab 1 Zzzz 2
   Arab 1 Zzzz 1 Arab 2 Zzzz 1 Arab 1 Zzzz 1 Arab 1 Zzzz 1 Arab 1 Zzzz 1 Arab 1 Zzzz 1 Arab 1
   Zzzz 2 Arab 1 Zzzz 1 Arab 2 Zzzz 4 Arab 1 Zzzz 7 Arab 1 Zzzz 4 Arab 1 Zzzz 4 Arab 1 Zzzz 1
   Arab 1 Zzzz 10 Arab 1 Zzzz 17 Arab 5 Zzzz 3 Arab 1 Zzzz 5 Arab 1 Zzzz 17 Arab 52 Zzzz 2 Arab
   270 Zzzz 44 Zyyy 4 Zzzz 100 Zyyy 12 Zzzz 15 Zyyy 2 Zzzz 15 Zyyy 1 Zzzz 15 Zyyy 1 Zzzz 37 Zyyy
   10 Zzzz 174 Zyyy 56 Zzzz 26 Zyyy 1 Hira 2 Zyyy 13 Zzzz 44 Zyyy 4 Zzzz 9 Zyyy 7 Zzzz 2 Zyyy 14
   Zzzz 6 Zyyy 154 Zzzz 985 Zyyy 3 Zzzz 17 Zyyy 3 Zzzz 13 Zyyy 3 Zzzz 218 Zyyy 6 Zzzz 12 Zyyy 4
   Zzzz 1 Zyyy 15 Zzzz 12 Zyyy 4 Zzzz 56 Zyyy 8 Zzzz 10 Zyyy 6 Zzzz 40 Zyyy 8 Zzzz 30 Zyyy 2 Zzzz
   12 Zyyy 4 Zzzz 2 Zyyy 14 Zzzz 9 Zyyy 39 Zzzz 344 Zyyy 8 Zzzz 14 Zyyy 2 Zzzz 13 Zyyy 3 Zzzz 11
   Zyyy 3 Zzzz 57 Zyyy 1 Zzzz 1 Zyyy 4 Zzzz 16 Zyyy 2 Zzzz 12 Zyyy 4 Zzzz 10 Zyyy 7 Zzzz 147 Zyyy
   1 Zzzz 103 Zyyy 1029 Zzzz 42720 Hani 32 Zzzz 4382 Hani 2 Zzzz 5774 Hani 2 Zzzz 7473 Hani 15
   Zzzz 622 Hani 2466 Zzzz 542 Hani 1506 Zzzz 4939 Hani 5 Zzzz 8490 Hani 707463 Zzzz 1 Zyyy 30
   Zzzz 96 Zyyy 128 Zzzz 240 Zinh 196112 Zzzz"

/-- The script of a character, by its four-letter code. -/
def script (c : Char) : String := (scriptRuns.lookup? c.toNat).getD "Zzzz"

/-- The code of a script by its folded name. -/
def script? : String → Option String
  | "adlm" | "adlam" => some "Adlm"
  | "aghb" | "caucasianalbanian" => some "Aghb"
  | "ahom" => some "Ahom"
  | "arab" | "arabic" => some "Arab"
  | "armi" | "imperialaramaic" => some "Armi"
  | "armn" | "armenian" => some "Armn"
  | "avst" | "avestan" => some "Avst"
  | "bali" | "balinese" => some "Bali"
  | "bamu" | "bamum" => some "Bamu"
  | "bass" | "bassavah" => some "Bass"
  | "batk" | "batak" => some "Batk"
  | "beng" | "bengali" => some "Beng"
  | "bhks" | "bhaiksuki" => some "Bhks"
  | "bopo" | "bopomofo" => some "Bopo"
  | "brah" | "brahmi" => some "Brah"
  | "brai" | "braille" => some "Brai"
  | "bugi" | "buginese" => some "Bugi"
  | "buhd" | "buhid" => some "Buhd"
  | "cakm" | "chakma" => some "Cakm"
  | "cans" | "canadianaboriginal" => some "Cans"
  | "cari" | "carian" => some "Cari"
  | "cham" => some "Cham"
  | "cher" | "cherokee" => some "Cher"
  | "chrs" | "chorasmian" => some "Chrs"
  | "copt" | "coptic" | "qaac" => some "Copt"
  | "cpmn" | "cyprominoan" => some "Cpmn"
  | "cprt" | "cypriot" => some "Cprt"
  | "cyrl" | "cyrillic" => some "Cyrl"
  | "deva" | "devanagari" => some "Deva"
  | "diak" | "divesakuru" => some "Diak"
  | "dogr" | "dogra" => some "Dogr"
  | "dsrt" | "deseret" => some "Dsrt"
  | "dupl" | "duployan" => some "Dupl"
  | "egyp" | "egyptianhieroglyphs" => some "Egyp"
  | "elba" | "elbasan" => some "Elba"
  | "elym" | "elymaic" => some "Elym"
  | "ethi" | "ethiopic" => some "Ethi"
  | "geor" | "georgian" => some "Geor"
  | "glag" | "glagolitic" => some "Glag"
  | "gong" | "gunjalagondi" => some "Gong"
  | "gonm" | "masaramgondi" => some "Gonm"
  | "goth" | "gothic" => some "Goth"
  | "gran" | "grantha" => some "Gran"
  | "grek" | "greek" => some "Grek"
  | "gujr" | "gujarati" => some "Gujr"
  | "guru" | "gurmukhi" => some "Guru"
  | "hang" | "hangul" => some "Hang"
  | "hani" | "han" => some "Hani"
  | "hano" | "hanunoo" => some "Hano"
  | "hatr" | "hatran" => some "Hatr"
  | "hebr" | "hebrew" => some "Hebr"
  | "hira" | "hiragana" => some "Hira"
  | "hluw" | "anatolianhieroglyphs" => some "Hluw"
  | "hmng" | "pahawhhmong" => some "Hmng"
  | "hmnp" | "nyiakengpuachuehmong" => some "Hmnp"
  | "hung" | "oldhungarian" => some "Hung"
  | "ital" | "olditalic" => some "Ital"
  | "java" | "javanese" => some "Java"
  | "kali" | "kayahli" => some "Kali"
  | "kana" | "katakana" => some "Kana"
  | "kawi" => some "Kawi"
  | "khar" | "kharoshthi" => some "Khar"
  | "khmr" | "khmer" => some "Khmr"
  | "khoj" | "khojki" => some "Khoj"
  | "kits" | "khitansmallscript" => some "Kits"
  | "knda" | "kannada" => some "Knda"
  | "kthi" | "kaithi" => some "Kthi"
  | "lana" | "taitham" => some "Lana"
  | "laoo" | "lao" => some "Laoo"
  | "latn" | "latin" => some "Latn"
  | "lepc" | "lepcha" => some "Lepc"
  | "limb" | "limbu" => some "Limb"
  | "lina" | "lineara" => some "Lina"
  | "linb" | "linearb" => some "Linb"
  | "lisu" => some "Lisu"
  | "lyci" | "lycian" => some "Lyci"
  | "lydi" | "lydian" => some "Lydi"
  | "mahj" | "mahajani" => some "Mahj"
  | "maka" | "makasar" => some "Maka"
  | "mand" | "mandaic" => some "Mand"
  | "mani" | "manichaean" => some "Mani"
  | "marc" | "marchen" => some "Marc"
  | "medf" | "medefaidrin" => some "Medf"
  | "mend" | "mendekikakui" => some "Mend"
  | "merc" | "meroiticcursive" => some "Merc"
  | "mero" | "meroitichieroglyphs" => some "Mero"
  | "mlym" | "malayalam" => some "Mlym"
  | "modi" => some "Modi"
  | "mong" | "mongolian" => some "Mong"
  | "mroo" | "mro" => some "Mroo"
  | "mtei" | "meeteimayek" => some "Mtei"
  | "mult" | "multani" => some "Mult"
  | "mymr" | "myanmar" => some "Mymr"
  | "nagm" | "nagmundari" => some "Nagm"
  | "nand" | "nandinagari" => some "Nand"
  | "narb" | "oldnortharabian" => some "Narb"
  | "nbat" | "nabataean" => some "Nbat"
  | "newa" => some "Newa"
  | "nkoo" | "nko" => some "Nkoo"
  | "nshu" | "nushu" => some "Nshu"
  | "ogam" | "ogham" => some "Ogam"
  | "olck" | "olchiki" => some "Olck"
  | "orkh" | "oldturkic" => some "Orkh"
  | "orya" | "oriya" => some "Orya"
  | "osge" | "osage" => some "Osge"
  | "osma" | "osmanya" => some "Osma"
  | "ougr" | "olduyghur" => some "Ougr"
  | "palm" | "palmyrene" => some "Palm"
  | "pauc" | "paucinhau" => some "Pauc"
  | "perm" | "oldpermic" => some "Perm"
  | "phag" | "phagspa" => some "Phag"
  | "phli" | "inscriptionalpahlavi" => some "Phli"
  | "phlp" | "psalterpahlavi" => some "Phlp"
  | "phnx" | "phoenician" => some "Phnx"
  | "plrd" | "miao" => some "Plrd"
  | "prti" | "inscriptionalparthian" => some "Prti"
  | "rjng" | "rejang" => some "Rjng"
  | "rohg" | "hanifirohingya" => some "Rohg"
  | "runr" | "runic" => some "Runr"
  | "samr" | "samaritan" => some "Samr"
  | "sarb" | "oldsoutharabian" => some "Sarb"
  | "saur" | "saurashtra" => some "Saur"
  | "sgnw" | "signwriting" => some "Sgnw"
  | "shaw" | "shavian" => some "Shaw"
  | "shrd" | "sharada" => some "Shrd"
  | "sidd" | "siddham" => some "Sidd"
  | "sind" | "khudawadi" => some "Sind"
  | "sinh" | "sinhala" => some "Sinh"
  | "sogd" | "sogdian" => some "Sogd"
  | "sogo" | "oldsogdian" => some "Sogo"
  | "sora" | "sorasompeng" => some "Sora"
  | "soyo" | "soyombo" => some "Soyo"
  | "sund" | "sundanese" => some "Sund"
  | "sylo" | "sylotinagri" => some "Sylo"
  | "syrc" | "syriac" => some "Syrc"
  | "tagb" | "tagbanwa" => some "Tagb"
  | "takr" | "takri" => some "Takr"
  | "tale" | "taile" => some "Tale"
  | "talu" | "newtailue" => some "Talu"
  | "taml" | "tamil" => some "Taml"
  | "tang" | "tangut" => some "Tang"
  | "tavt" | "taiviet" => some "Tavt"
  | "telu" | "telugu" => some "Telu"
  | "tfng" | "tifinagh" => some "Tfng"
  | "tglg" | "tagalog" => some "Tglg"
  | "thaa" | "thaana" => some "Thaa"
  | "thai" => some "Thai"
  | "tibt" | "tibetan" => some "Tibt"
  | "tirh" | "tirhuta" => some "Tirh"
  | "tnsa" | "tangsa" => some "Tnsa"
  | "toto" => some "Toto"
  | "ugar" | "ugaritic" => some "Ugar"
  | "vaii" | "vai" => some "Vaii"
  | "vith" | "vithkuqi" => some "Vith"
  | "wara" | "warangciti" => some "Wara"
  | "wcho" | "wancho" => some "Wcho"
  | "xpeo" | "oldpersian" => some "Xpeo"
  | "xsux" | "cuneiform" => some "Xsux"
  | "yezi" | "yezidi" => some "Yezi"
  | "yiii" | "yi" => some "Yiii"
  | "zanb" | "zanabazarsquare" => some "Zanb"
  | "zinh" | "inherited" | "qaai" => some "Zinh"
  | "zyyy" | "common" => some "Zyyy"
  | "zzzz" | "unknown" => some "Zzzz"
  | "gara" | "garay" => some "Gara"
  | "gukh" | "gurungkhema" => some "Gukh"
  | "krai" | "kiratrai" => some "Krai"
  | "onao" | "olonal" => some "Onao"
  | "sunu" | "sunuwar" => some "Sunu"
  | "todr" | "todhri" => some "Todr"
  | "tutg" | "tulutigalari" => some "Tutg"
  | "sidt" | "sidetic" => some "Sidt"
  | "tols" | "tolongsiki" => some "Tols"
  | "berf" | "beriaerfe" => some "Berf"
  | "tayo" | "taiyo" => some "Tayo"
  | _ => none

end LineCensus.Unicode
