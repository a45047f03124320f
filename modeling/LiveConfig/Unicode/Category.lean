import LiveConfig.Unicode.CharSet

/-!
# General categories

The table lists the code points from 0 on as runs of one category: its two-letter
name, then the length of the run in hexadecimal unless it is one.  It is the table of
version 16 of the character database, by which patterns are read.  All other text is
read by version 17, whose differences are listed apart.
-/

namespace LiveConfig
namespace Unicode

/-- A version of the character database. -/
inductive Version
  | v16
  | v17
  deriving DecidableEq, Inhabited

/-- A general category by its two-letter name, with the code points that have it. -/
structure CategoryRun where
  category : String
  range : Nat × Nat

def categoryTable : String :=
    "Cc20ZsPo3ScPo3PsPePoSmPoPdPo2NdaPo2Sm3Po2Lu1aPsPoPeSkPcSkLl1aPsSmPeSmCc21ZsPoSc4SoPoSkSoLoPi
    SmCfSoSkSoSmNo2SkLlPo2SkNoLoPfNo3PoLu17SmLu7Ll18SmLl8LuLlLuLlLuLlLuLlLuLlLuLlLuLlLuLlLuLlLu
    LlLuLlLuLlLuLlLuLlLuLlLuLlLuLlLuLlLuLlLuLlLuLlLuLlLuLlLuLlLuLlLuLlLuLlLuLl2LuLlLuLlLuLlLuLl
    LuLlLuLlLuLlLuLl2LuLlLuLlLuLlLuLlLuLlLuLlLuLlLuLlLuLlLuLlLuLlLuLlLuLlLuLlLuLlLuLlLuLlLuLlLu
    LlLuLlLuLlLuLlLuLlLu2LlLuLlLuLl3Lu2LlLuLlLu2LlLu3Ll2Lu4LlLu2LlLu3Ll3Lu2LlLu2LlLuLlLuLlLu2Ll
    LuLl2LuLlLu2LlLu3LlLuLlLu2Ll2LoLuLl3Lo4LuLtLlLuLtLlLuLtLlLuLlLuLlLuLlLuLlLuLlLuLlLuLlLuLl2Lu
    LlLuLlLuLlLuLlLuLlLuLlLuLlLuLlLuLl2LuLtLlLuLlLu3LlLuLlLuLlLuLlLuLlLuLlLuLlLuLlLuLlLuLlLuLlLu
    LlLuLlLuLlLuLlLuLlLuLlLuLlLuLlLuLlLuLlLuLlLuLlLuLlLuLlLuLlLuLlLuLlLuLlLuLl7Lu2LlLu2Ll2LuLl
    Lu4LlLuLlLuLlLuLlLuLl45LoLl1bLm12Sk4LmcSkeLm5Sk7LmSkLmSk11Mn70LuLlLuLlLmSkLuLlCn2LmLl3PoLu
    Cn4Sk2LuPoLu3CnLuCnLu2LlLu11CnLu9Ll23LuLl2Lu3Ll3LuLlLuLlLuLlLuLlLuLlLuLlLuLlLuLlLuLlLuLlLuLl
    LuLl5LuLlSmLuLlLu2Ll2Lu33Ll30LuLlLuLlLuLlLuLlLuLlLuLlLuLlLuLlLuLlLuLlLuLlLuLlLuLlLuLlLuLlLu
    LlLuLlSoMn5Me2LuLlLuLlLuLlLuLlLuLlLuLlLuLlLuLlLuLlLuLlLuLlLuLlLuLlLuLlLuLlLuLlLuLlLuLlLuLlLu
    LlLuLlLuLlLuLlLuLlLuLlLuLlLuLlLu2LlLuLlLuLlLuLlLuLlLuLlLuLl2LuLlLuLlLuLlLuLlLuLlLuLlLuLlLuLl
    LuLlLuLlLuLlLuLlLuLlLuLlLuLlLuLlLuLlLuLlLuLlLuLlLuLlLuLlLuLlLuLlLuLlLuLlLuLlLuLlLuLlLuLlLuLl
    LuLlLuLlLuLlLuLlLuLlLuLlLuLlLuLlLuLlLuLlLuLlLuLlLuLlLuLlLuLlLuLlLuLlCnLu26Cn2LmPo6Ll29PoPd
    Cn2So2ScCnMn2dPdMnPoMn2PoMn2PoMnCn8Lo1bCn4Lo4Po2CnbCf6Sm3Po2ScPo2So2MnbPoCfPo3Lo20LmLoaMn15
    NdaPo4Lo2MnLo63PoLoMn7CfSoMn6Lm2Mn2SoMn4Lo2NdaLo3So2LoPoeCnCfLoMnLo1eMn1bCn2Lo59MnbLoCneNda
    Lo21Mn9Lm2SoPo3LmCn2MnSc2Lo16Mn4LmMn9LmMn3LmMn5Cn2PofCnLo19Mn3Cn2PoCnLobCn5Lo18SkLo6CnCf2Cn5
    Mn9Lo29LmMn18CfMn20McLo36MnMcMnLoMc3Mn8Mc4MnMc2LoMn7LoaMn2Po2NdaPoLmLofMnMc2CnLo8Cn2Lo2Cn2
    Lo16CnLo7CnLoCn3Lo4Cn2MnLoMc3Mn4Cn2Mc2Cn2Mc2MnLoCn8McCn4Lo2CnLo3Mn2Cn2NdaLo2Sc2No6SoScLoPoMn
    Cn2Mn2McCnLo6Cn4Lo2Cn2Lo16CnLo7CnLo2CnLo2CnLo2Cn2MnCnMc3Mn2Cn4Mn2Cn2Mn3Cn3MnCn7Lo4CnLoCn7Nda
    Mn2Lo3MnPoCnaMn2McCnLo9CnLo3CnLo16CnLo7CnLo2CnLo5Cn2MnLoMc3Mn5CnMn2McCnMc2MnCn2LoCnfLo2Mn2
    Cn2NdaPoScCn7LoMn6CnMnMc2CnLo8Cn2Lo2Cn2Lo16CnLo7CnLo2CnLo5Cn2MnLoMcMnMcMn4Cn2Mc2Cn2Mc2MnCn7
    Mn2McCn4Lo2CnLo3Mn2Cn2NdaSoLoNo6CnaMnLoCnLo6Cn3Lo3CnLo4Cn3Lo2CnLoCnLo2Cn3Lo2Cn3Lo3Cn3LocCn4
    Mc2MnMc2Cn3Mc3CnMc3MnCn2LoCn6McCneNdaNo3So6ScSoCn5MnMc3MnLo8CnLo3CnLo17CnLo10Cn2MnLoMn3Mc4Cn
    Mn3CnMn4Cn7Mn2CnLo3Cn2LoCn2Lo2Mn2Cn2NdaCn7PoNo7SoLoMnMc2PoLo8CnLo3CnLo17CnLoaCnLo5Cn2MnLoMc
    MnMc5CnMnMc2CnMc2Mn2Cn7Mc2Cn6Lo2CnLo2Mn2Cn2NdaCnLo2McCncMn2Mc2Lo9CnLo3CnLo29Mn2LoMc3Mn4CnMc3
    CnMc3MnLoSoCn4Lo3McNo7Lo3Mn2Cn2NdaNo9SoLo6CnMnMc2CnLo12Cn3Lo18CnLo9CnLoCn2Lo7Cn3MnCn4Mc3Mn3
    CnMnCnMc8Cn6NdaCn2Mc2PoCncLo30MnLo2Mn7Cn4ScLo6LmMn8PoNdaPo2Cn25Lo2CnLoCnLo5CnLo18CnLoCnLoaMn
    Lo2Mn9LoCn2Lo5CnLmCnMn7CnNdaCn2Lo4Cn20LoSo3PofSoPoSo3Mn2So6NdaNoaSoMnSoMnSoMnPsPePsPeMc2Lo8
    CnLo24Cn4MneMcMn5PoMn2Lo5MnbCnMn24CnSo8MnSo6CnSo2Po5So4Po2Cn25Lo2bMc2Mn4McMn6McMn2Mc2Mn2Lo
    NdaPo6Lo6Mc2Mn2Lo4Mn3LoMc3Lo2Mc7Lo3Mn4LodMnMc2Mn2Mc6MnLoMcNdaMc3MnSo2Lu26CnLuCn5LuCn2Ll2bPo
    LmLl3Lo149CnLo4Cn2Lo7CnLoCnLo4Cn2Lo29CnLo4Cn2Lo21CnLo4Cn2Lo7CnLoCnLo4Cn2LofCnLo39CnLo4Cn2
    Lo43Cn2Mn3Po9No14Cn3Lo10SoaCn6Lu56Cn2Ll6Cn2PdLo26cSoPoLo11ZsLo1aPsPeCn3Lo4bPo3Nl3Lo8Cn7Lo12
    Mn3McCn9Lo13Mn2McPo2Cn9Lo12Mn2CncLodCnLo3CnMn2CncLo34Mn2McMn7Mc8MnMc2MnbPo3LmPo3ScLoMnCn2Nda
    Cn6NoaCn6Po6PdPo4Mn3CfMnNdaCn6Lo23LmLo35Cn7Lo5Mn2Lo22MnLoCn5Lo46CnaLo1fCnMn3Mc4Mn2Mc3Cn4Mc2
    MnMc6Mn3Cn4SoCn3Po2NdaLo1eCn2Lo5CnbLo2cCn4Lo1aCn6NdaNoCn3So22Lo17Mn2Mc2MnCn2Po2Lo35McMnMcMn7
    CnMnMcMnMc2Mn8Mc6MnaCn2MnNdaCn6NdaCn6Po7LmPo6Cn2MneMeMn10Cn31Mn4McLo2fMnMcMn5McMnMc5MnMc2Lo8
    CnPo2NdaPo7SoaMn9So9Po3Mn2McLo1eMcMn4Mc2Mn2McMn3Lo2NdaLo2cMnMcMn2Mc3MnMcMn3Mc2Cn8Po4Lo24Mc8
    Mn8Mc2Mn2Cn3Po5NdaCn3Lo3NdaLo1eLm6Po2Ll9LuLlCn5Lu2bCn2Lu3Po8Cn8Mn3PoMndMcMn7Lo4MnLo6MnLo2Mc
    Mn2LoCn5Ll2cLm3fLldLmLl22Lm25Mn40LuLlLuLlLuLlLuLlLuLlLuLlLuLlLuLlLuLlLuLlLuLlLuLlLuLlLuLlLu
    LlLuLlLuLlLuLlLuLlLuLlLuLlLuLlLuLlLuLlLuLlLuLlLuLlLuLlLuLlLuLlLuLlLuLlLuLlLuLlLuLlLuLlLuLlLu
    LlLuLlLuLlLuLlLuLlLuLlLuLlLuLlLuLlLuLlLuLlLuLlLuLlLuLlLuLlLuLlLuLlLuLlLuLlLuLlLuLlLuLlLuLlLu
    LlLuLlLuLlLuLlLuLlLuLlLuLlLuLlLuLlLuLlLuLlLuLlLuLlLuLlLuLl9LuLlLuLlLuLlLuLlLuLlLuLlLuLlLuLl
    LuLlLuLlLuLlLuLlLuLlLuLlLuLlLuLlLuLlLuLlLuLlLuLlLuLlLuLlLuLlLuLlLuLlLuLlLuLlLuLlLuLlLuLlLuLl
    LuLlLuLlLuLlLuLlLuLlLuLlLuLlLuLlLuLlLuLlLuLlLuLlLuLlLuLlLuLlLuLlLuLlLuLl9Lu8Ll6Cn2Lu6Cn2Ll8
    Lu8Ll8Lu8Ll6Cn2Lu6Cn2Ll8CnLuCnLuCnLuCnLuLl8Lu8LleCn2Ll8Lt8Ll8Lt8Ll8Lt8Ll5CnLl2Lu4LtSkLlSk3
    Ll3CnLl2Lu4LtSk3Ll4Cn2Ll2Lu4CnSk3Ll8Lu5Sk3Cn2Ll3CnLl2Lu4LtSk2CnZsbCf5Pd6Po2PiPfPsPi2PfPsPi
    Po8ZlZpCf5ZsPo9PiPfPo4Pc2Po3SmPsPePobSmPoPcPoaZsCf5CnCfaNoLmCn2No6Sm3PsPeLmNoaSm3PsPeCnLmd
    Cn3Sc21CnfMndMe4MnMe3MncCnfSo2LuSo4LuSo2LlLu3Ll2Lu3LlSoLuSo2SmLu5So6LuSoLuSoLuSoLu4SoLlLu4Ll
    Lo4LlSo2Ll2Lu2Sm5LuLl4SoSmSo2LlSoNo10Nl23LuLlNl4NoSo2Cn4Sm5So5Sm2So4SmSo2SmSo2SmSo7SmSo1fSm2
    So2SmSoSmSo1fSm10cSo8PsPePsPeSo14Sm2So7PsPeSo51SmSo1eSm19So28Sm6So48Cn16SobCn15No3cSo4eNo16
    Sob7SmSo9SmSo36Sm8So6fSmSof8PsPePsPePsPePsPePsPePsPePsPeNo1eSo2cSm5PsPeSm1fPsPePsPePsPePsPe
    PsPeSm10So100Sm83PsPePsPePsPePsPePsPePsPePsPePsPePsPePsPePsPeSm3fPsPePsPeSm20PsPeSm102So30
    Sm15So2Sm6So27Cn2So20CnSo69Lu30Ll30LuLlLu3Ll2LuLlLuLlLuLlLu4LlLuLl2LuLl6Lm2Lu3LlLuLlLuLlLuLl
    LuLlLuLlLuLlLuLlLuLlLuLlLuLlLuLlLuLlLuLlLuLlLuLlLuLlLuLlLuLlLuLlLuLlLuLlLuLlLuLlLuLlLuLlLuLl
    LuLlLuLlLuLlLuLlLuLlLuLlLuLlLuLlLuLlLuLlLuLlLuLlLuLlLuLlLuLlLuLlLuLlLuLlLuLlLuLlLuLlLuLlLu
    Ll2So6LuLlLuLlMn3LuLlCn5Po4NoPo2Ll26CnLlCn5LlCn2Lo38Cn7LmPoCneMnLo17Cn9Lo7CnLo7CnLo7CnLo7Cn
    Lo7CnLo7CnLo7CnLo7CnMn20Po2PiPfPiPfPo3PiPfPoPiPfPo9PdPo2PdPoPiPfPo2PiPfPsPePsPePsPePsPePo5Lm
    PoaPd2Po4PdPoPsPodSo2Po3PsPePsPePsPePsPePdCn22So1aCnSo59CncSod6Cn1aSo10ZsPo3SoLmLoNlPsPePsPe
    PsPePsPePsPeSo2PsPePsPePsPePsPePdPsPe2SoNl9Mn4Mc2PdLm5So2Nl3LmLoPoSo2CnLo56Cn2Mn2Sk2Lm2LoPd
    Lo5aPoLm3LoCn5Lo2bCnLo5eCnSo2No4SoaLo20So26Cn9SoLo10So1fCnNoaSo1eNo8SoNofSo20NoaSo27NofSo140
    Lo19c0So40Lo5215LmLo477Cn3So37Cn9Lo28Lm6Po2Lo10cLmPo3Lo10NdaLo2Cn14LuLlLuLlLuLlLuLlLuLlLuLl
    LuLlLuLlLuLlLuLlLuLlLuLlLuLlLuLlLuLlLuLlLuLlLuLlLuLlLuLlLuLlLuLlLuLlLoMnMe3PoMnaPoLmLuLlLuLl
    LuLlLuLlLuLlLuLlLuLlLuLlLuLlLuLlLuLlLuLlLuLlLuLlLm2Mn2Lo46NlaMn2Po6Cn8Sk17Lm9Sk2LuLlLuLlLuLl
    LuLlLuLlLuLlLuLl3LuLlLuLlLuLlLuLlLuLlLuLlLuLlLuLlLuLlLuLlLuLlLuLlLuLlLuLlLuLlLuLlLuLlLuLlLu
    LlLuLlLuLlLuLlLuLlLuLlLuLlLuLlLuLlLuLlLuLlLuLlLuLlLmLl8LuLlLuLlLu2LlLuLlLuLlLuLlLuLlLmSk2Lu
    LlLuLlLoLuLlLuLl3LuLlLuLlLuLlLuLlLuLlLuLlLuLlLuLlLuLlLuLlLu5LlLu5LlLuLlLuLlLuLlLuLlLuLlLuLl
    LuLlLu4LlLuLlLu2LlCn2LuLlCnLlCnLlLuLlLuLlLuLlLuCn15Lm3LuLlLoLm2LlLo7MnLo3MnLo4MnLo17Mc2Mn2Mc
    So4MnCn3No6So2ScSoCn6Lo34Po4Cn8Mc2Lo32Mc10Mn2Cn8Po2NdaCn6Mn12Lo6Po3LoPoLo2MnNdaLo1cMn8Po2
    Lo17MnbMc2CnbPoLo1dCn3Mn3McLo2fMnMc2Mn4Mc2Mn2Mc3PodCnLmNdaCn4Po2Lo5MnLmLo9NdaLo5CnLo29Mn6Mc2
    Mn2Mc2Mn2Cn9Lo3MnLo8MnMcCn2NdaCn2Po4Lo10LmLo6So3LoMcMnMcLo32MnLoMn3Lo2Mn2Lo5Mn2LoMnLoCn18Lo2
    LmPo2LobMcMn2Mc2Po2LoLm2McMnCnaLo6Cn2Lo6Cn2Lo6Cn9Lo7CnLo7CnLl2bSkLm4Ll9LmSk2Cn4Ll50Lo23Mc2Mn
    Mc2MnMc2PoMcMnCn2NdaCn6Lo2ba4CncLo17Cn4Lo31Cn4Cs800Co1900Lo16eCn2Lo6aCn26Ll7CncLl5Cn5LoMnLoa
    SmLodCnLo5CnLoCnLo2CnLo2CnLo6cSk11Cn10Lo16bPePsSo10Lo40Cn2Lo36Cn7SoCn20LocScSo3Mn10Po7PsPePo
    Cn6Mn10PoPd2Pc2PsPePsPePsPePsPePsPePsPePsPePsPePo2PsPePo4Pc3Po3CnPo4PdPsPePsPePsPePo3SmPdSm3
    CnPoScPo2Cn4Lo5CnLo87Cn2CfCnPo3ScPo3PsPePoSmPoPdPo2NdaPo2Sm3Po2Lu1aPsPoPeSkPcSkLl1aPsSmPeSm
    PsPePoPsPePo2LoaLmLo2dLm2Lo1fCn3Lo6Cn2Lo6Cn2Lo6Cn2Lo3Cn3Sc2SmSkSoSc2CnSoSm4So2CnaCf3So2Cn2
    LocCnLo1aCnLo13CnLo2CnLofCn2LoeCn22Lo7bCn5Po3Cn4No2dCn3So9Nl35No4So11No2So3CnSodCn3SoCn2f
    So2dMnCn82Lo1dCn3Lo31CnfMnNo1bCn4Lo20No4Cn9Lo14NlLo8NlCn5Lo26Mn5Cn5Lo1eCnPoLo24Cn4Lo8PoNl5
    Cn2aLu28Ll28Lo4eCn2NdaCn6Lu24Cn4Ll24Cn4Lo28Cn8Lo34CnbPoLubCnLufCnLu7CnLu2CnLlbCnLlfCnLl7Cn
    Ll2Cn3Lo34CncLo137Cn9Lo16CnaLo8Cn18Lm6CnLm2aCnLm9Cn45Lo6Cn2LoCnLo2cCnLo2Cn3LoCn2Lo17CnPoNo8
    Lo17So2No7Lo1fCn8No9Cn30Lo13CnLo2Cn5No5Lo16No6Cn3PoLo1aCn5PoCn40Lo38Cn4No2Lo2No10Cn2No2eLo
    Mn3CnMn2Cn5Mn4Lo4CnLo3CnLo1dCn2Mn3Cn4MnNo9Cn7Po9Cn7Lo1dNo2PoLo1dNo3Cn20Lo8SoLo1cMn2Cn4No5Po7
    Cn9Lo36Cn3Po7Lo16Cn2No8Lo13Cn5No8Lo12Cn7Po4CncNo7Cn50Lo49Cn37Lu33CndLl33Cn7No6Lo24Mn4Cn8Nda
    Cn6NdaLo4LmLoLu16Cn3Mn5PdLmLl16Cn8Sm2Cnd0No1fCnLo2aCnMn2PdCn2Lo2Cn10Lo3Cn37Mn4Lo1dNoaLoCn8
    Lo16MnbNo4Po5Cn16Lo12Mn4Po4Cn26Lo15No7Cn14Lo17Cn9McMnMcLo35MnfPo7Cn4No14NdaMnLo2Mn2LoCn9Mn3
    McLo2dMc3Mn4Mc2Mn2Po2CfPo4MnCnaCfCn2Lo19Cn7NdaCn6Mn3Lo24Mn5McMn8CnNdaPo4LoMc2LoCn8Lo23MnPo2
    LoCn9Mn2McLo30Mc3Mn9Mc2Lo4Po4Mn4PoMcMnNdaLoPoLoPo3CnNo14CnbLo12CnLo19Mc3Mn3Mc2MnMcMn2Po6Mn
    Lo2MnCn3eLo7CnLoCnLo4CnLofCnLoaPoCn6Lo2fMnMc3Mn8Cn5NdaCn6Mn2Mc2CnLo8Cn2Lo2Cn2Lo16CnLo7CnLo2
    CnLo5CnMn2LoMc2MnMc4Cn2Mc2Cn2Mc3Cn2LoCn6McCn5Lo5Mc2Cn2Mn7Cn3Mn5CnbLoaCnLoCn2LoCnLo26CnLoMc3
    Mn6CnMcCn2McCnMc4CnMc2MnMcMnLoMnLoPo2CnPo2Cn8Mn2Cn1dLo35Mc3Mn8Mc2Mn3McMnLo4Po5NdaPo2CnPoMn
    Lo3Cn1eLo30Mc3Mn6McMnMc4Mn2McMn2Lo2PoLoCn8NdaCna6Lo2fMc3Mn4Cn2Mc4Mn2McMn2Po17Lo4Mn2Cn22Lo30
    Mc3Mn8Mc2MnMcMn2Po3LoCnbNdaCn6PodCn13Lo2bMnMcMnMc2Mn6McMnLoPoCn6NdaCn6Nd14Cn1cLo1bCn2MnMcMn
    Mc2Mn4McMn5Cn4NdaNo2Po3SoLo7Cnb9Lo2cMc3Mn9McMn2PoCn64Lu20Ll20NdaNo9CncLo8Cn2LoCn2Lo8CnLo2Cn
    Lo18Mc6CnMc2Cn2Mn2McMnLoMcLoMcMnPo3Cn9NdaCn46Lo8Cn2Lo27Mc3Mn4Cn2Mn2Mc4MnLoPoLoMcCn1bLoMna
    Lo28Mn6McLoMn4Po8MnCn8LoMn6Mc2Mn3Lo2eMndMcMn2Po3LoPo5CndLo49Cn7PoaCnb6Lo21PoCneNdaCn6Lo9Cn
    Lo25McMn7CnMn6McMnLoPo5CnaNdaNo13Cn3Po2Lo1eCn2Mn16CnMcMn7McMn2McMn2Cn49Lo7CnLo2CnLo26Mn6Cn3
    MnCnMn2CnMn7LoMnCn8NdaCn6Lo6CnLo2CnLo20Mc5CnMn2CnMc2MnMcMnLoCn7NdaCn136Lo13Mn2Mc2Po2Cn7Mn2Lo
    McLodCnLo22Mc2Mn5Cn3Mc2MnMcMnPodNdaMnCn55LoCnfNo15So8Sc4So11CndPoLo39aCn66Nl6fCnPo5CnbLoc4
    Cna4cLo61Po2CndLo430Cf10MnLo6MnfCnaLof9bCn5Lo247Cn1ab9Lo1eMncMc3Mn3NdaCn6c6Lo239Cn7Lo1fCnNda
    Cn4Po2Lo4fCnNdaCn6Lo1eCn2Mn5PoCnaLo30Mn7Po5So4Lm4PoSoCnaNdaCnNo7CnLo15Cn5Lo13Cn1b0Lm3Lo28Lm2
    Po3NdaCnc6Lu20Ll20No17Po4Cn65Lo4bCn4MnLoMc37Cn7Mn4LmdCn40Lm2PoLmMnCnbMc2CneLo17f8Cn8Lo4d6
    Cn29LoaCn22e7Lm4CnLm7CnLm2CnLo123CnfLoCn1dLo3Cn2LoCneLo4Cn8Lo18cCn904Lo6bCn5LodCn3Lo9Cn7Loa
    Cn2SoMn2PoCf4Cnf5cSof0NdaCn6So1b4Cn4cMn2eCn2Mn17Cn9So74Cn3cSof6CnaSo27Cn2So3cMc2Mn3So3Mc6Cf8
    Mn8So2Mn7So1eMn4So3dCn15So42Mn3SoCn7aNo14CncNo14CncSo57Cn9No19Cn87Lu1aLl1aLu1aLl7CnLl12Lu1a
    Ll1aLuCnLu2Cn2LuCn2Lu2Cn2Lu4CnLu8Ll4CnLlCnLl7CnLlbLu1aLl1aLu2CnLu4Cn2Lu8CnLu7CnLl1aLu2CnLu4
    CnLu5CnLuCn3Lu7CnLl1aLu1aLl1aLu1aLl1aLu1aLl1aLu1aLl1aLu1aLl1aLu1aLl1cCn2Lu19SmLl19SmLl6Lu19
    SmLl19SmLl6Lu19SmLl19SmLl6Lu19SmLl19SmLl6Lu19SmLl19SmLl6LuLlCn2Nd32So200Mn37So4Mn32So8MnSoe
    MnSo2Po5CnfMn5CnMnfCn450LlaLoLl14Cn6Ll6Cnd5Mn7CnMn11Cn2Mn7CnMn2CnMn5Cn5Lm3eCn21MnCn70Lo2dCn3
    Mn7Lm7Cn2NdaCn4LoSoCn140Lo1eMnCn11Lo2cMn4NdaCn5ScCn1d0Lo1bLmMn4NdaCnd6Lo1eMn2LoNdaCn4PoCn1e0
    Lo7CnLo4CnLo2CnLofCnLoc5Cn2No9Mn7Cn29Lu22Ll22Mn7LmCn4NdaCn4Po2Cn311No3bSoNo3ScNo4Cn4cNo2dSo
    NofCnc2Lo4CnLo1bCnLo2CnLoCn2LoCnLoaCnLo4CnLoCnLoCn6LoCn4LoCnLoCnLoCnLo3CnLo2CnLoCn2LoCnLoCn
    LoCnLoCnLoCnLo2CnLoCn2Lo4CnLo7CnLo4CnLo4CnLoCnLoaCnLo11Cn5Lo3CnLo5CnLo11Cn34Sm2Cn10eSo2cCn4
    So64CncSofCn2SofCnSofCnSo25CnaNodSoa1Cn38So1dCndSo2cCn4So9Cn7So2CneSo6Cn9aSofbSk5So2d8Cn4
    So11Cn3SodCn3So77Cn4So5fCn6SocCn4SoCnfSocCn4So38Cn8SoaCn6So28Cn8So1eCn2SocCn4So2Cn3eSo154Cnc
    SoeCn2SodCn3SoaCn5So38Cn7SofCn2SobCn6So9Cn7So93CnSo5cNdaCn406Loa6e0Cn20Lo103aCn6LodeCn2
    Lo1682CneLo1d31CnfLo26eCn9a2Lo21eCn5e2Lo134bCn5Lo1060Cnadc51CfCn1eCf60Cn80Mnf0Cnfe10Cofffe
    Cn2CofffeCn2"

/-- The runs of the table from code point `start` on. -/
def readCategoryRuns : Nat → Nat → List Char → List CategoryRun
  | 0, _, _ => []
  | fuel + 1, start, text =>
    match text.dropWhile isBlank with
    | a :: b :: rest =>
      let isHex (c : Char) : Bool := ('0' ≤ c && c ≤ '9') || ('a' ≤ c && c ≤ 'f')
      let digits := rest.takeWhile isHex
      let length := if digits = [] then 1 else natOfHex digits
      ⟨String.ofList [a, b], (start, start + length - 1)⟩ ::
        readCategoryRuns fuel (start + length) (rest.dropWhile isHex)
    | _ => []

def categoryRuns : List CategoryRun :=
  readCategoryRuns categoryTable.length 0 categoryTable.toList

/-- The code points whose category is another in version 17, nearly all of them new. -/
def laterCategoryTable : String :=
    "295:Lo 88f:Lo c5c:Lo cdc:Lo 1acf-1add:Mn 1ae0-1aeb:Mn 20c1:Sc 2b96:So a7ce:Lu a7cf:Ll
    a7d2:Lu a7d4:Lu a7f1:Lm fbc3-fbd2:So fd90-fd91:So fdc8-fdce:So 10940-10959:Lo 10ec5:Lm
    10ec6-10ec7:Lo 10ed0:Po 10ed1-10ed8:So 10efa-10efb:Mn 11b60:Mn 11b61:Mc 11b62-11b64:Mn
    11b65:Mc 11b66:Mn 11b67:Mc 11db0-11dd8:Lo 11dd9:Lm 11dda-11ddb:Lo 11de0-11de9:Nd
    16ea0-16eb8:Lu 16ebb-16ed3:Ll 16ff2-16ff3:Lm 16ff4-16ff6:Nl 187f8-187ff:Lo 18d09-18d1e:Lo
    18d80-18df2:Lo 1ccfa-1ccfc:So 1ceba-1ced0:So 1cee0-1ceef:So 1cef0:Sm 1e6c0-1e6de:Lo
    1e6e0-1e6e2:Lo 1e6e3:Mn 1e6e4-1e6e5:Lo 1e6e6:Mn 1e6e7-1e6ed:Lo 1e6ee-1e6ef:Mn 1e6f0-1e6f4:Lo
    1e6f5:Mn 1e6fe:Lo 1e6ff:Lm 1f6d8:So 1f777-1f77a:So 1f8d0-1f8d8:Sm 1fa54-1fa57:So 1fa8a:So
    1fa8e:So 1fac8:So 1facd:So 1faea:So 1faef:So 1fbfa:So 2b73a-2b73f:Lo 2cea2-2cead:Lo
    323b0-33479:Lo"

def laterCategoryRuns : List CategoryRun :=
  (blankSeparated laterCategoryTable.toList).filterMap fun row =>
    match Text.splitChars ':' row with
    | [codes, category] => some ⟨String.ofList category, CharSet.readRange codes⟩
    | _ => none

/-- The code points that version 17 has in another category than version 16. -/
def laterSet : CharSet := CharSet.ofRanges (laterCategoryRuns.map (·.range))

/-- The code points of one of the categories. -/
def categorySet (version : Version) (categories : List String) : CharSet :=
  let ofRuns (runs : List CategoryRun) : CharSet :=
    CharSet.ofRanges ((runs.filter fun run => categories.contains run.category).map (·.range))
  match version with
  | .v16 => ofRuns categoryRuns
  | .v17 => ((ofRuns categoryRuns).diff laterSet).union (ofRuns laterCategoryRuns)

end Unicode
end LiveConfig
