import FormDialogue.Unicode.Name.Run

/-! # Names of signs

The names of cuneiform signs, hieroglyphs and other large sets of signs, in runs of their short
form. -/

namespace FormDialogue.Unicode

def signNames : List NameRun := [
  ⟨0x12400, [
    "aCUNEIFORM NUMERIC SIGN TWO ASHdTHREEndFOURndFIVEndSIXndSEVENndEIGHTndNINEndTHREE DISHdFOURn",
    "dFIVEndSIXndSEVENndEIGHTndNINEndFOUR UdFIVEndSIXndSEVENndEIGHTndNINEndONE GESH2dTWOndTHREEn",
    "dFOURndFIVEndSIXndSEVENndEIGHTndNINEndONE GESHUdTWOndTHREEndFOURndFIVEndTWO SHAR2dTHREEn",
    "fVARIANT FORMdFOUR SHAR2dFIVEndSIXndSEVENndEIGHTndNINEndONE SHARUdTWOndTHREEnfVARIANT FORM",
    "dFOUR SHARUdFIVEndSHAR2 TIMES GAL PLUS DISHhMINdONE BURUdTWOndTHREEnfVARIANT FORMdFOUR BURU",
    "dFIVEndTHREE VARIANT FORM ESH16gESH21dFOUR VARIANT FORM LIMMUgLIMMU4gLIMMU AhB",
    "dSIX VARIANT FORM ASH9dSEVEN VARIANT FORM IMIN3gIMIN AhBdEIGHT VARIANT FORM USSUgUSSU3",
    "dNINE VARIANT FORM ILIMMUgILIMMU3+gILIMMU AdTWO ASH TENUdTHREEodFOURodFIVEodSIXodONE BAN2",
    "dTWOndTHREEndFOURnfVARIANT FORMdFIVE BAN2fVARIANT FORMdNIGIDAMINdNIGIDAESHdONE ESHE3dTWOn",
    "dONE THIRD DISHdTWO THIRDSndFIVE SIXTHSndONE THIRD VARIANT FORM AdTWO THIRDSpdONE EIGHTH ASH",
    "eQUARTERndOLD ASSYRIAN ONE SIXTHgQUARTERdONE QUARTER GUReHALFndELAMITE ONE THIRDeTWO THIRDS",
    "eFORTYeFIFTYdFOUR U VARIANT FORMdFIVEpdSIXpdSEVENpdEIGHTpdNINEp_",
    "bPUNCTUATION SIGN OLD ASSYRIAN WORD DIVIDERdVERTICAL COLONdDIAGONALneTRICOLONeQUADCOLON"]⟩,
  ⟨0x12480, [
    "aCUNEIFORM SIGN AB TIMES NUN TENUeSHU2cAD TIMES ESH2cBAD TIMES DISH TENUcBAHAR2 TIMES AB2eNI",
    "eZAcBU OVER BU TIMES NA2cDA TIMES TAK4cDAG TIMES KURcDIM TIMES IGIeU U UcDIM2 TIMES UD",
    "cDUG TIMES ANSHEeASHfAT LEFTeDINeDUNeERIN2eGAeGIeGIR2 GUNUeGISHeHAeHIeIGI GUNUeKASKALeKUR",
    "eKUSHU2fPLUS KASKALeLAK-020eLAMfTIMES KUReLUH PLUS GISHeMASHeMESeMIeNIePIeSHEeSI GUNU",
    "cE2 TIMES KURePAPcERIN2 XcESH2 CROSSING ESH2cEZEN SHESHIG TIMES ASHfHIfIGI GUNUfLAfLALfME",
    "fMESfSUdocGA2 TIMES BAHAR2eDIM GUNUeDUG TIMES IGIngKASKALeERENeGAeGAR PLUS DIgNEeHA PLUS A",
    "eKUSHU2 PLUS KASKALeLAMfTIMES KUReLUHeMUSHeNEfPLUS E2gGIeSHIMeZIZ2",
    "cGABA ROTATED NINETY DEGREEScGESHTIN TIMES UcGISH TIMES GISH CROSSING GISH",
    "cGU2 TIMES IGI GUNUcGUD PLUS GISH TIMES TAK4cHA TENU GUNUcHI TIMES ASH OVER HI TIMES ASH",
    "cKA TIMES BUeKAeU U UeURcLAGAB TIMES ZU OVER ZUcLAK-003cLAK-021cLAK-025cLAK-030cLAK-050+",
    "cLAK-062cLAK-079 OVER LAK-079 GUNUcLAK-080cLAK-081 OVER LAK-081cLAK-092cLAK-130cLAK-142",
    "cLAK-210cLAK-219+cLAK-225cLAK-228cLAK-238cLAK-265+cLAK-343cLAK-347+cLAK-383+cLAK-390cLAK-441",
    "cLAK-449dTIMES GUeIGIePAP PLUS LU3gPAP PLUSneU2 PLUS BAcLAK-450cLAK-457cLAK-470cLAK-483",
    "cLAK-490cLAK-492+cLAK-495cLAK-550cLAK-608cLAK-617dTIMES ASHeBADeDUN3 GUNU GUNUeKU3eLAeTAReTE",
    "eU2eUDeURUDAcLAK-636cLAK-648dTIMES DUBeGAeIGIfGUNUeNIePAP PLUS PAP PLUS LU3eSHESH PLUS KIeUD",
    "eURUDAcLAK-724cLAK-749cLU2 GUNU TIMES ASHdTIMES DISHeHALePAPfPLUS PAP PLUS LU3eTAK4",
    "cMI PLUS ZA7cMUSH OVER MUSH TIMES GAgKAKcNINDA2 TIMES DIM GUNUeGISHeGULeHIeKESH2eLAK-050",
    "eMASHePAP PLUS PAPeUfPLUS UeURUDAcSAG GUNU TIMES HAdTIMES ENeSHE AT LEFTeTAK4cSHA6 TENU",
    "cSHE OVER SHEdPLUS HUB2eNAM2eSARcSHU2 PLUS DUG TIMES NIeE2 TIMES ANcSI TIMES TAK4",
    "cTAK4 PLUS SAGcTUM TIMES GAN2 TENUeTHREE DISHcUR2 INVERTEDdTIMES UDcURU TIMES DARA3eLAK-668",
    "eLU3cZA7cZU OVER ZU PLUS SARcZU5 TIMES THREE DISH TENU"]⟩,
  ⟨0x12F90, [
    "aCYPRO-MINOAN SIGN CM001+cCM004++++++++cCM012BcCM013cCM015cCM017cCM019cCM021cCM023+++++++",
    "cCM033++++++++cCM044cCM046+cCM049+++++++cCM058++++++cCM066+++++++++cCM075BcCM076cCM078++++++",
    "++++++++cCM094+++++++++++cCM107+++cCM112cCM114cCM301+"]⟩,
  ⟨0x13000, [
    "aEGYPTIAN HIEROGLYPH A001++++cA005AcA006cA006AcA006BcA007+++++++cA014AcA015++cA017AcA018++++",
    "++++++++++cA032AcA033+++++++cA040AcA041+cA042AcA043cA043AcA044+cA045AcA046++++++++++++++++++",
    "++++++cB001++++cB005AcB006+++cC001+cC002AcC002BcC002CcC003+++++++cC010AcC011+++++++++++++",
    "cD001+++++++cD008AcD009++++++++++++++++++cD027AcD028+++cD031AcD032++cD034AcD035+++++++++++",
    "cD046AcD047+cD048AcD049+cD050AcD050BcD050CcD050DcD050EcD050FcD050GcD050HcD050IcD051+cD052A",
    "cD053+cD054AcD055++++++++++++cD067AcD067BcD067CcD067DcD067EcD067FcD067GcD067HcE001+++++++",
    "cE008AcE009cE009AcE010++++++cE016AcE017cE017AcE018++cE020AcE021+++++++cE028AcE029+++++cE034A",
    "cE036++cF001cF001AcF002+++++++++++cF013AcF014+++++++cF021AcF022+++++++++cF031AcF032+++++",
    "cF037AcF038cF038AcF039++++++cF045AcF046cF046AcF047cF047AcF048+++cF051AcF051BcF051CcF052+",
    "cG001+++++cG006AcG007cG007AcG007BcG008+++cG011AcG012++++++++cG020AcG021+++++cG026AcG027+++++",
    "++++cG036AcG037cG037AcG038+++++cG043AcG044+cG045AcG046++++++++cH001+++++cH006AcH007+cI001+++",
    "+cI005AcI006+++cI009AcI010cI010AcI011cI011AcI012+++cK001+++++++cL001+cL002AcL003+++cL006A",
    "cL007+cM001cM001AcM001BcM002+cM003AcM004++++++cM010AcM011+cM012AcM012BcM012CcM012DcM012E",
    "cM012FcM012GcM012HcM013++cM015AcM016cM016AcM017cM017AcM018++++cM022AcM023+cM024AcM025+++",
    "cM028AcM029++cM031AcM032+cM033AcM033BcM034++++++cM040AcM041+++cN001+++++++++++++++++cN018A",
    "cN018BcN019++++++cN025AcN026+++++++cN033AcN034cN034AcN035cN035AcN036+cN037AcN038++++cNL001++",
    "++cNL005AcNL006+++++++++++cNL017AcNL018++cNU001+++++++++cNU010AcNU011cNU011AcNU012++++++",
    "cNU018AcNU019+++cNU022AcO001cO001AcO002+++cO005AcO006cO006AcO006BcO006CcO006DcO006EcO006F",
    "cO007+++cO010AcO010BcO010CcO011++++++++cO019AcO020cO020AcO021+++cO024AcO025cO025AcO026+++",
    "cO029AcO030cO030AcO031++cO033AcO034++cO036AcO036BcO036CcO036DcO037+++++++++++++cO050AcO050B",
    "cO051cP001cP001AcP002+cP003AcP004+++++++cQ001++++++cR001+cR002AcR003cR003AcR003BcR004++++++",
    "cR010AcR011+++++cR016AcR017++++++++++++cS001+cS002AcS003+++cS006AcS007+++++++cS014AcS014B",
    "cS015++cS017AcS018++++++++cS026AcS026BcS027++++++++cS035AcS036++++++++++cT001++cT003AcT004++",
    "+cT007AcT008cT008AcT009cT009AcT010+cT011AcT012++++cT016AcT017+++++++++++++++cT032AcT033",
    "cT033AcT034++cU001+++++cU006AcU006BcU007++++++++++++++++cU023AcU024+++++cU029AcU030++cU032A",
    "cU033+++++++++cV001cV001AcV001BcV001CcV001DcV001EcV001FcV001GcV001HcV001IcV002cV002AcV003+++",
    "+cV007AcV007BcV008+++cV011AcV011BcV011CcV012cV012AcV012BcV013+++++++cV020AcV020BcV020CcV020D",
    "cV020EcV020FcV020GcV020HcV020IcV020JcV020KcV020LcV021++cV023AcV024++++cV028AcV029cV029AcV030",
    "cV030AcV031cV031AcV032+cV033AcV034+++cV037AcV038++cV040AcW001++cW003AcW004+++++cW009AcW010",
    "cW010AcW011+++cW014AcW015++cW017AcW018cW018AcW019+++++cW024AcW025cX001+++cX004AcX004BcX005+",
    "cX006AcX007+cX008AcY001cY001AcY002++++++cZ001+cZ002AcZ002BcZ002CcZ002DcZ003cZ003AcZ003BcZ004",
    "cZ004AcZ005cZ005AcZ006+++++++++cZ015AcZ015BcZ015CcZ015DcZ015EcZ015FcZ015GcZ015HcZ015IcZ016",
    "cZ016AcZ016BcZ016CcZ016DcZ016EcZ016FcZ016GcZ016HcAA001++++++cAA007AcAA007BcAA008++++++++++++",
    "++++++++++++_cVERTICAL JOINERcHORIZONTALncINSERT AT TOP STARTeBOTTOMneTOP ENDeBOTTOMn",
    "cOVERLAY MIDDLEcBEGIN SEGMENTcENDn"]⟩,
  ⟨0x14400, [
    "aANATOLIAN HIEROGLYPH A001+++++++++cA010AcA011+++++++++++++++cA026AcA027++++++++++++cA039A",
    "cA040+cA041AcA042+++cA045AcA046cA046AcA046BcA047+++++++++++++++++++cA066AcA066BcA066CcA067++",
    "++++++++++++++++++++++++++++cA097AcA098cA098AcA099+cA100AcA101cA101AcA102cA102AcA103+cA104A",
    "cA104BcA104CcA105cA105AcA105BcA106+cA107AcA107BcA107CcA108++cA110AcA110BcA111++++cA115AcA116",
    "+++++++++cA125AcA126+++++++++cA135AcA136++++++++++++++++++++++++++++++++++++++++++++++++++++",
    "++++++++++++++cA202AcA202BcA203++++cA207AcA208+cA209AcA210+++++cA215AcA216cA216AcA217+++++++",
    "+++cA227AcA228+++++++++++++++++++++++++++++++++++++++cA267AcA268+++++++++++++++++++++cA289A",
    "cA290++++cA294AcA295++++cA299AcA300+++++++++cA309AcA310+++++++++++++++++++cA329AcA330+cA332A",
    "cA332BcA332CcA333+++cA336AcA336BcA336CcA337++++++++++++++++++++++cA359AcA360++++cA364AcA365+",
    "++cA368AcA369++cA371AcA372+++++++++cA381AcA382cA383 RA OR RIcA383AcA384++cA386AcA387+++++",
    "cA393 EIGHTcA394+++++++++++++++cA410 BEGIN LOGOGRAM MARKcA410A ENDocA411++++++++++++++++++++",
    "+++++++++++++++++++cA450AcA451++++++cA457AcA458+++++++++++++++++++++++++++++++++++++++cA501+",
    "++++++++++++++++++++++++++++"]⟩,
  ⟨0x16800, [
    "aBAMUM LETTER PHASE-A NGKUE MFONdGBIEE FONdPON MFON PIPAEMGBIEEfPIPAEMBAdNAA MFONdSHUENSHUET",
    "dTITA MFONdNZAndSHINDA PA NJIdPON PA NJI PIPAEMGBIEEgPIPAEMBAdMAEMBGBIEEdTU MAEMBAdNGANGU",
    "dMAEMVEUXdMANSUAEdMVEUAENGAMdSEUNYAMdNTOQPENdKEUKEUTNDAdNKINDIdSUUdNGKUENZEUMdLAPAQdLET KUT",
    "dNTAP MFAAdMAEKEUPdPASHAEdGHEUAERAEdPAMSHAEdMON NGGEUAETdNZUN MEUTdU YUQ NAEdGHEUAEGHEUAE",
    "dNTAP NTAAdSISAdMGBASAdMEUNJOMNDEUQdMOOMPUQdKAFAdPA LEERAEWAdNDAndPETdMAEMKPENdNIKAdPUP",
    "dTUAEPdLUAEPdSONJAMdTEUTEUWENdMAENYIdKETdNDAANGGEUAETdKUOQdMOOMEUTdSHUMdLOMMAEdFIRIdROMdKPOQ",
    "dSOQdMAP PIEETdSHIRAEdNTAPdSHOQ NSHUT YUMdNYIT MONGKEUAEQdPAARAEdNKAARAEdUNKNOWNdNGGENdMAESI",
    "dNJAMdMBANYIdNYETdTEUAENdSOTdPAAMdNSHIEEdMAEMdNYIdKAQdNSHAdVEEdLUdNENdNAQdMBAQ",
    "cPHASE-B NSHUETdTU MAEMGBIEEdSIEEdSET TUdLOM NTEUMdMBA MAELEEdKIEEMdYEURAEdMBAARAEdKAM",
    "dPEESHIdYAFU LEERAEWAdLAM NSHUT NYAMdNTIEE SHEUOQdNDU NJAAdGHEUGHEUAEMdPITdTU NSIEE",
    "dSHET NJAQdSHEUAEQTUdMFON TEUAEQdMBIT MBAAKETdNYI NTEUMdKEUPUQdGHEUGHENdKEUYEUXdLAANAEdPARUM",
    "dVEUMdNGKINDI MVOPdNGGEU MBUdWUAETdSAKEUAEdTAAMdMEUQdNGGUOQeLARGEdMFIYAQdSUEdMBEURIdMONTIEEN",
    "dNYAEMAEdPUNGAAMdMEUT NGGEETdFEUXdMBUOQdFEEdKEUAEMdMA NJEUAENAeNJUQAdLETdNGGAAMdNSENdMAdKIQ",
    "dNGOMcPHASE-C NGKUE MAEMBAdNZAdYUMdWANGKUOQdNGGENdNDEUAEREEdNGKAQdGHARAEdMBEEKEETdGBAYI",
    "dNYIR MKPARAQ MEUNdNTU MBITdMBEUMdPIRIEENdNDOMBUdMBAA CABBAGE-TREEdKEUSHEUAEPdGHAPdKEUKAQ",
    "dYU MUOMAEdNZEUMdMBUEdNSEUAENdMBITdYEUQdKPARAQdKAAdSEUXdNDIDAdTAASHAEdNJUEQdTITA YUEdSUAET",
    "dNGGUAEN NYAMdVEUXdNANSANAQdMA KEUAERIdNTAAdNGGUONdLAPdMBIRIEENdMGBASAQdNTEUNGBAdTEUTEUX",
    "dNGGUMdFUEdNDEUTdNSAdNSHAQdBUNGdVEUAEPENdMBERAEdRUdNJAEMdLAMdTITUAEPdNSUOT NGOMdNJEEEEdKET",
    "dNGGUdMAESIdMBUAEMdLUdKUTdNJAMdNGOMdWUPdNGGUEETdNSOMdNTENdKUOP NKAARAEdNSUNdNDAMdMA NSIEE",
    "dYAAdNDAPdSHUEQdSETFONdMBIdMAEMBAdMBANYIdKEUSEUXdMBEUXdKEUMdMBAA PICKETdYUWOQdNJEUXdMIEE",
    "dMUAEdSHIQdKEN LAWeFATIGUEdNGAQdNAQdLIQdPINdPENdTETcPHASE-D MBUOdWAPdNJIdMFONdNJIEEdLIEE",
    "dNJEUTdNSHEEdNGGAAMAEdNYAMdWUAENdNGKUNdSHEEdNGKAPdKEUAETMEUNdTEUTdSHEUAEdNJAPdSUEdKET",
    "dYAEMMAEdKUOMdSAPdMFEUTdNDEUXdMALEERIdMEUTdSEUAEQdYENdNJEUAEMdKEUOT MBUAEdNGKEURIdTUdGHAA",
    "dNGKYEEdFEUFEUAETdNDEEdMGBOFUMdLEUAEPdNDONdMONIdMGBEUNdPUUTdMGBIEEdMFOdLUMdNSIEEPdMBAAdKWAET",
    "dNYETdTEUAENdSOTdYUWOQdKEUMdRAEMdTEEEEdNGKEUAEQdMFEUAEdNSIEETdKEUPdPIPdPEUTAEdNYUEdLET",
    "dNGGAAMdMFIEEdNGGWAENdYUOMdPAPdYUOPdNDAMdNTEUMdSUAEdKUNdNGGEUXdNGKIEEdTUOTdMEUNdKUQdNSUM",
    "dTEUNdMAENJETdNGGAPdLEUMdNGGUOMdNSHUTdNJUEQdGHEUAEdKUdREN OLDdTAEdTOQdNYIdRIIdLEEEEdMEEEEdM",
    "dSUUdMUdSHIIdSHEUXdKYEEdNUdSHUdNTEEdPEEdNIdSHOQdPUQdMVOPdLOQdREN MUCHdTIdNTUUdMBAA SEVENdSAQ",
    "dFAAcPHASE-E NDAPdTOONdMBEUMdLAPdVOMdLOONdPAAdSOMdRAQdNSHUOPdNDUNdPUAEdTAMdNGKAdKPEUXdWUO",
    "dSEEdNGGEUAETdPAAMdTOOdKUOPdLOMdNSHIEEdNGOPdMAEMdNGKEUXdNGOQdNSHUEdRIMGBAdNJEUXdPEEMdSAA",
    "dNGGURAEdMGBAdGHEUXdNGKEUAEMdNJAEMLIdMAPdLOOTdNGGEEEEdNDIQdTAEN NTEUMdSETdPUMdNDAA SOFTNESS",
    "dNGGUAESHAE NYAMdYIEEdGHEUNdTUAEdYEUAEdPOdTUMAEdKEUAEdSUAENdTEUAEQdVEUAEdWEUXdLAAMdPUdTAAQ",
    "dGHAAMAEdNGEUREUTdSHEUAEQdMGBENdMBEEdNZAQdNKOMdGBETdTUMdKUETdYAPdNYI CLEAVERdYITdMFEUQdNDIAQ",
    "dPIEEQdYUEQdLEUAEMdFUEdGBEUXdNGKUPdKETdMAEdNGKAAMIdGHETdFAdNTUMdPEUTdYEUMdNGGEUAE",
    "dNYI BETWEENdNZUQdPOONdMIEEdFUETdNAEdMUAEdGHEUAEdFU IdMVIdPUAQdNGKUMdKUTdPIETdNTAPdYEUAET",
    "dNGGUPdPA PEOPLEdFU CALLdFOMdNJEEdAdTOQdOdIdLAQdPA PLURALdTAAdTAQdNDAA MY HOUSEdSHIQdYEUX",
    "dNGUAEdYUAENdYOQ SWIMMINGeCOVERdYUQdYUNdKEUXdPEUXdNJEE EPOCHdPUEdWUEdFEEdVEEdLUdMIdREUXdRAE",
    "dNGUAETdNGAdSHOdSHOQdFU REMEDYdNAdPIdLOQdKOdMENdMAdMAQdTEUdKIdMONdTENdFAQdGHOMcPHASE-F KAdU",
    "dKUdEEdREEdTAEdNYIdLAdRIIdRIEEdMEEEEdTAAdNDAAdNJAEMdMdSUUdSHIIdSIdSEUXdKYEEdKETdNUAEdNU",
    "dNJUAEdYOQdSHUdYAdNSHAdPEUXdNTEEdWUEdPEEdRUdNIdREUXdKENdNGKWAENdNGGAdSHOdPUAEdFOMdWAdLIdLOQ",
    "dKOdMBENdRENdMAdMOdMBAAdTETdKPAdSAMBAdVUEQ"]⟩,
  ⟨0x16A40, [
    "aMRO LETTER TAcNGIcYOcMIMcBAcDAcAcPHIcKHAIcHAOcDAIcCHUcKEAAEcOLcMAEMcNINcPAcOOcOcROcSHIcTHEA",
    "cEAcWAcEcKOcLANcLAcHAIcRIcTEK_bDIGIT ZEROcONEcTWOcTHREEcFOURcFIVEcSIXcSEVENcEIGHTcNINE"]⟩,
  ⟨0x16A6E, [
    "aMRO DANDAbDOUBLEnaTANGSA LETTER OZcOCcOQcOXcAZcACcAQcAXcVZcVCcVQcVXcEZcECcEQcEXcIZcICcIQcIX",
    "cUZcUCcUQcUXcAWZcAWCcAWQcAWXcUIZcUICcUIQcUIXcFINAL NGcLONG UEXcSHORT UEZdAWXcUECcUEZcUEQcUEX",
    "cUIUZcUIUCcUIUQcUIUXcMZcMCcMQcMXcKAcKHAcGAcNGAcSAcYAcWAcPAcNYAcPHAcBAcMAcNAcHAcLAcHTAcTAcDA",
    "cRAcNHAcSHAcCAcTSAcGHAcHTTAcTHAcXAcFAcDHAcCHAcZA_bDIGIT ZEROcONEcTWOcTHREEcFOURcFIVEcSIX",
    "cSEVENcEIGHTcNINE"]⟩,
  ⟨0x16AD0, [
    "aBASSA VAH LETTER ENNIdKAdSEdFAdMBEdYIEdGAHdDHIIdKPAHdJOdHWAHdWAdZOdGBUdDOdCEdUWUdTOdBAdVU",
    "dYEINdPAdWADDAdAdOdOOdUdEEdEdI__cCOMBINING HIGH TONEdLOWndMIDndLOW-MIDndHIGH-LOWncFULL STOP"]⟩,
  ⟨0x16B00, [
    "aPAHAWH HMONG VOWEL KEEBdKEEVdKIBdKIVdKAUBdKAUVdKUBdKUVdKEBdKEVdKAIBdKAIVdKOOBdKOOVdKAWB",
    "dKAWVdKUABdKUAVdKOBdKOVdKIABdKIAVdKABdKAVdKWBdKWVdKAABdKAAVcCONSONANT VAUdNTSAUdLAUdHAUdNLAU",
    "dRAUdNKAUdQHAUdYAUdHLAUdMAUdCHAUdNCHAUdHNAUdPLHAUdNTHAUdNAUdAUdXAUdCAUcMARK CIM TUBeSOeKES",
    "eKHAVeSUAMeHOMeTAUMcSIGN VOS THOMeTSHAB CEEBdCIM CHEEMdVOS THIABeFEEMdXYEEM NTXIVeRHOeTOV",
    "eFAIBdVOS SEEVdMEEJ SUABdVOS NRUAdIB YAMdXAUSdCIM TSOV ROG"]⟩,
  ⟨0x16B50, [
    "aPAHAWH HMONG DIGIT ZEROdONEdTWOdTHREEdFOURdFIVEdSIXdSEVENdEIGHTdNINE_cNUMBER TENSdHUNDREDS",
    "dTEN THOUSANDSdMILLIONSdHUNDREDndTEN BILLIONSdTRILLIONS_cSIGN VOS LUBdXYOOdHLIdTHIRD-STAGEn",
    "dZWJ THAJdHNUBdNQIGdXIABdNTUJdAVdTXHEEJ CEEVdMEEJ TSEEBdTAUdLOSdMUSdCIM HAIS LUS NTOG NTOG",
    "eCUAM TSHOOJeTXWVfCHWVePUB DAWBeNRES TOS"]⟩,
  ⟨0x16B7D, [
    "aPAHAWH HMONG CLAN SIGN TSHEEJeYEEGeLISeLAUJeXYOOJeKOOeHAWJeMUASeTHOJeTSABePHABeKHABeHAMeVAJ",
    "eFAJeYAJeTSWBeKWMeVWJ"]⟩,
  ⟨0x16E40, [
    "aMEDEFAIDRIN CAPITAL LETTER MdSdVdWdATIUdZdKPdPdTdGdFdIdKdAdJdEdBdCdUdYUdLdQdHPdNYdXdDdOEdN",
    "dRdOdAIdYbSMALL LETTER MdSdVdWdATIUdZdKPdPdTdGdFdIdKdAdJdEdBdCdUdYUdLdQdHPdNYdXdDdOEdNdRdO",
    "dAIdYbDIGIT ZEROcONEcTWOcTHREEcFOURcFIVEcSIXcSEVENcEIGHTcNINEbNUMBER TENcELEVENcTWELVE",
    "cTHIRTEENcFOURTEENcFIFTEENcSIXTEENcSEVENTEENcEIGHTEENcNINETEENbDIGIT ONE ALTERNATE FORMcTWOo",
    "cTHREEobCOMMAbFULL STOPbSYMBOL AIVAbEXCLAMATION OH"]⟩,
  ⟨0x16F00, [
    "aMIAO LETTER PAcBAcYI PAcPLAcMAcMHAcARCHAIC MAcFAcVAcVFAcTAcDAcYI TTAdTAcTTAcDDAcNAcNHA",
    "cYI NNAcARCHAIC NAcNNAcNNHAcLAcLYAcLHAcLHYAcTLHAcDLHAcTLHYAcDLHYAcKAcGAcYI KAcQAcQGAcNGA",
    "cNGHAcARCHAIC NGAcHAcXAcGHAcGHHAcTSSAcDZZAcNYAcNYHAcTSHAcDZHAcYI TSHAdDZHAcREFORMED TSHAcSHA",
    "cSSAcZHAcZSHAcTSAcDZAcYI TSAcSAcZAcZSAcZZAcZZSAcARCHAIC ZZAcZZYAcZZSYAcWAcAHcHHAcBRIcSYI",
    "cDZYIcTEcTSEcRTE"]⟩,
  ⟨0x16F4F, [
    "aMIAO SIGN CONSONANT MODIFIER BARbLETTER NASALIZATIONbSIGN ASPIRATIONcREFORMED VOICING",
    "dASPIRATIONbVOWEL SIGN AdAAdAHHdANdANGdOdOOdWOdWdEdENdENGdOEYdIdIAdIANdIANGdIOdIEdIIdIUdING",
    "dUdUAdUANdUANGdUUdUEIdUNGdYdYIdAEdAEEdERRdROUNDEDndERdROUNDEDndAIdEIdAUdOUdNdNGdUOGdYUIdOG",
    "dOERdVWdIGdEAdIONGdUI"]⟩,
  ⟨0x16F8F, [
    "aMIAO TONE RIGHTcTOPncABOVEcBELOWbLETTER TONE-2++++++cREFORMED TONE-1+dTONE-4++dTONE-8"]⟩,
  ⟨0x16FE0, [
    "aTANGUT ITERATION MARKaNUSHUoaOLD CHINESE HOOKncITERATIONnaKHITAN SMALL SCRIPT FILLER"]⟩,
  ⟨0x16FF0, [
    "aVIETNAMESE ALTERNATE READING MARK CAeNHAY"]⟩,
  ⟨0x18800, [
    "aTANGUT COMPONENT-001+++++++++++++++++++++++++++++++++++++++++++++++++++++++++++++++++++++++",
    "++++++++++++++++++++++++++++++++++++++++++++++++++++++++++++++++++++++++++++++++++++++++++++",
    "++++++++++++++++++++++++++++++++++++++++++++++++++++++++++++++++++++++++++++++++++++++++++++",
    "++++++++++++++++++++++++++++++++++++++++++++++++++++++++++++++++++++++++++++++++++++++++++++",
    "++++++++++++++++++++++++++++++++++++++++++++++++++++++++++++++++++++++++++++++++++++++++++++",
    "++++++++++++++++++++++++++++++++++++++++++++++++++++++++++++++++++++++++++++++++++++++++++++",
    "++++++++++++++++++++++++++++++++++++++++++++++++++++++++++++++++++++++++++++++++++++++++++++",
    "++++++++++++++++++++++++++++++++++++++++++++++++++++++++++++++++++++++++++++++++++++++++++++",
    "++++++++++++++++++++++++++++++++++++++++++++++++++++"]⟩,
  ⟨0x1AFF0, [
    "aKATAKANA LETTER MINNAN TONE-2+++_dTONE-7+dNASALIZED TONE-1++++_eTONE-7+_cARCHAIC E",
    "aHIRAGANA LETTER ARCHAIC YEaHENTAIGANA LETTER A-1++cA-WOcI-1+++cU-1++++cE-2++++cO-1++cKA-1++",
    "++++++++cKA-KEcKI-1+++++++cKU-1++++++cKE-1+++++cKO-1++cKO-KIcSA-1+++++++cSI-1+++++cSU-1+++++",
    "++cSE-1++++cSO-1++++++cTA-1+++cTI-1++++++cTU-1+++cTU-TOcTE-1++++++++cTO-1+++++cTO-RAcNA-1+++",
    "+++++cNI-1++++++cNI-TEcNU-1++cNE-1+++++cNE-KOcNO-1++++cHA-1++++++++++cHI-1++++++cHU-1++cHE-1",
    "++++++cHO-1+++++++cMA-1++++++cMI-1++++++cMU-1+++cME-1+cME-MAcMO-1+++++cYA-1++++cYA-YOcYU-1++",
    "+cYO-1+++++cRA-1+++cRI-1++++++cRU-1+++++cRE-1+++cRO-1+++++cWA-1++++cWI-1++++cWE-1+++cWO-1+++",
    "+++cN-MU-MO-1+aHIRAGANA LETTER ARCHAIC WUaKATAKANA LETTER ARCHAIC YIdYEdWU"]⟩,
  ⟨0x1B150, [
    "aHIRAGANA LETTER SMALL WIdWEdWO"]⟩,
  ⟨0x1B164, [
    "aKATAKANA LETTER SMALL WIdWEdWOdN"]⟩,
  ⟨0x1BC00, [
    "aDUPLOYAN LETTER HcXcPcTcFcKcLcBcDcVcGcRcP NcD ScF NcK McR ScTHcSLOAN DHcncKKcSLOAN JcHLcLH",
    "cRHcMcNcJcScM NcN McJncS JcM WITH DOTcNocJoeDOTS INSIDE AND ABOVEcS WITH DOTfBELOWcM ScNncJn",
    "cSncM NncN MncJocS JncJ S WITH DOTdNeScS TeRdPeRcT SdRncWcWHcW RcS NdMcK R ScGocS KeRcA",
    "cSLOAN OWcOAcOcAOUcIcEcIEcSHORT IcUIcEEcSLOAN EHcROMANIAN IcSLOAN EEcLONG IcYEcUcEUcXWcU N",
    "cLONG UcROMANIANncUHcSLOAN UcOOHcOWcOUcWAcWOcWIcWEIcWOWcNASAL UdOdIdAcPERNIN ANdAMcSLOAN EN",
    "dANdONcVOCALIC M"]⟩,
  ⟨0x1BC70, [
    "aDUPLOYAN AFFIX LEFT HORIZONTAL SECANTcMIDocRIGHTocLOW VERTICALncMIDocHIGHocATTACHEDn",
    "dLEFT-TO-RIGHTndTANGENTdTAILdE HOOKdIndTANGENTn___cHIGH ACUTEdTIGHTndGRAVEdLONGndDOTdCIRCLE",
    "dLINEdWAVEdVERTICAL"]⟩,
  ⟨0x1BC90, [
    "aDUPLOYAN AFFIX LOW ACUTEdTIGHTndGRAVEdLONGndDOTdCIRCLEdLINEdWAVEdVERTICALdARROW__",
    "bSIGN O WITH CROSSbTHICK LETTER SELECTORbDOUBLE MARKbPUNCTUATION CHINOOK FULL STOP",
    "aSHORTHAND FORMAT LETTER OVERLAPcCONTINUINGncDOWN STEPcUPn"]⟩,
  ⟨0x1CF00, [
    "aZNAMENNY COMBINING MARK GORAZDO NIZKO S KRYZHEM ON LEFTdrdTSATAodGORAZDO NIZKOodpdSREDNEo",
    "dMALO POVYSHEodpdVYSOKOodMALO POVYSHE S KHOKHLOModrdVYSOKOqdGORAZDO NIZKO S KRYZHEM ON RIGHT",
    "drdTSATAodGORAZDO NIZKOodpdSREDNEodMALO POVYSHEodpdVYSOKOodMALO POVYSHE S KHOKHLOModr",
    "dVYSOKOqdTSATA S KRYZHEMdMALO POVYSHEodSTRANNO MALO POVYSHEdPOVYSHE S KRYZHEMeSTRANNO",
    "dVYSOKO S KRYZHEMdMALO POVYSHE STRANNOdGORAZDO VYSOKOdZELOdONdRAVNOdTIKHAYAdBORZAYAdUDARKA",
    "dPODVERTKAdLOMKAdKUPNAYAdKACHKAdZEVOKdSKOBAdRAZSEKAdKRYZH ON LEFT__cTONAL RANGE MARK MRACHNO",
    "fSVETLOfTRESVETLOcMARK ZADERZHKAdDEMESTVENNYndOTSECHKAdPODCHASHIEeWITH VERTICAL STROKE",
    "dCHASHKAePOLNAYAdOBLACHKOdSOROCHYA NOZHKAdTOCHKAdDVOETOCHIEcATTACHING VERTICAL OMET",
    "cMARK CURVEDndKRYZHcLOWER TONAL RANGE INDICATORbPRIZNAK MODIFIER LEVEL-2+dDIRECTION FLIP",
    "dKRYZHdROG"]⟩,
  ⟨0x1CF50, [
    "aZNAMENNY NEUME KRYUKdTIKHYcPARAKLITcDVA V CHELNUcKLYUCHcZANOZHEKcSTOPITSAdS OCHKOM",
    "cPEREVODKAdNEPOSTOYANNAYAcSTOPITSA WITH SOROCHYA NOZHKAcCHELYUSTKAcPALKAcZAPYATAYA",
    "cGOLUBCHIK BORZYdTIKHYdMRACHNYdSVETLYdTRESVETLYcVRAKHIYA PROSTAYAdMRACHNAYAdSVETLAYA",
    "dTRESVETLAYAdKLYUCHEVAYA PROSTAYAeMRACHNAYAeSVETLAYAeTRESVETLAYAcDOUBLE ZAPYATAYA",
    "cREVERSED CHELYUSTKAcDERBITSAcKHAMILOcCHASHKAcPODCHASHIEcSKAMEYTSA MRACHNAYAdSVETLAYA",
    "dTRESVETLAYAdTIKHAYAcDEMESTVENNY KLYUCHcSKAMEYTSA KLYUCHEVAYA SVETLAYAdKLYUCHENEPOSTOYANNAYA",
    "dKLYUCHEVAYA TIKHAYAdDVOECHELNAYA PROSTAYAeSVETLAYAeNEPOSTOYANNAYAeKLYUCHEVAYAcSLOZHITIE",
    "dS ZAPYATOYdZAKRYTOEdS KRYZHEMcKRYZHcROGcFITAcKOBYLAcZMEYTSAcSTATYAdS ZAPYATOYeKRYZHEM",
    "eZAPYATOY IneKRYZHEM I ZAPYATOYdZAKRYTAYAeS ZAPYATOYdS ROGOMeDVUMYA ZAPYATYMI",
    "eZAPYATOY I PODCHASHIEMcPOLKULIZMYcSTATYA NEPOSTOYANNAYAcSTRELA PROSTAYAdMRACHNOTIKHAYA",
    "dKRYZHEVAYAdPOLUPOVODNAYAdPOVODNAYAdNEPOSTOYANNAYAdKLYUCHEPOVODNAYAdKLYUCHENEPOSTOYANNAYA",
    "dTIKHAYA PUTNAYAdDVOECHELNAYAdDVOECHELNOKRYZHEVAYAdDVOECHELNOPOVODNAYA",
    "dDVOECHELNAYA KLYUCHEVAYAdDVOECHELNOPOVODNAYAndGROMNAYA WITH SINGLE ZAPYATAYA",
    "dGROMOPOVODNAYApdGROMNAYAdGROMOPOVODNAYAeWITH DOUBLE ZAPYATAYAdGROMOKRYZHEVAYAePOVODNAYA",
    "cMECHIKdPOVODNYdKLYUCHEVOYdKLYUCHEPOVODNYdKLYUCHENEPOSTOYANNYcSTRELA TRYASOGLASNAYA",
    "dTRYASOPOVODNAYAdTRYASOSTRELNAYAcOSOKAdSVETLAYAdTRESVETLAYAdKRYUKOVAYA SVETLAYAdKLYUCHEVAYAn",
    "eNEPOSTOYANNAYAcSTRELA KRYUKOVAYAePOVODNAYAeGROMNAYA WITH SINGLE ZAPYATAYAeGROMOPOVODNAYAp",
    "eGROMNAYAeGROMOPOVODNAYAfWITH DOUBLE ZAPYATAYAeGROMOKRYZHEVAYAfPOVODNAYAeTRYASKAcKUFISMA",
    "cOBLAKOcDUDAcNEMKAcPAUK"]⟩]

end FormDialogue.Unicode
