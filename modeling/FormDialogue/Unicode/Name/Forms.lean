import FormDialogue.Unicode.Name.Run

/-! # Names of forms

The names of presentation forms, and of wide and narrow forms, in runs of their short form. -/

namespace FormDialogue.Unicode

def formNames : List NameRun := [
  ⟨0xD7B0, [
    "aHANGUL JUNGSEONG O-YEOcO-O-IcYO-AcYO-AEcYO-EOcU-YEOcU-I-IcYU-AEcYU-OcEU-AcEU-EOcEU-EcEU-O",
    "cI-YA-OcI-YAEcI-YEOcI-YEcI-O-IcI-YOcI-YUcI-IcARAEA-AcARAEA-E"]⟩,
  ⟨0xD7CB, [
    "aHANGUL JONGSEONG NIEUN-RIEULcNIEUN-CHIEUCHcSSANGTIKEUTcSSANGTIKEUT-PIEUPcTIKEUT-PIEUP",
    "cTIKEUT-SIOScTIKEUT-SIOS-KIYEOKcTIKEUT-CIEUCcTIKEUT-CHIEUCHcTIKEUT-THIEUTHcRIEUL-SSANGKIYEOK",
    "cRIEUL-KIYEOK-HIEUHcSSANGRIEUL-KHIEUKHcRIEUL-MIEUM-HIEUHcRIEUL-PIEUP-TIKEUT",
    "cRIEUL-PIEUP-PHIEUPHcRIEUL-YESIEUNGcRIEUL-YEORINHIEUH-HIEUHcKAPYEOUNRIEULcMIEUM-NIEUN",
    "cMIEUM-SSANGNIEUNcSSANGMIEUMcMIEUM-PIEUP-SIOScMIEUM-CIEUCcPIEUP-TIKEUTcPIEUP-RIEUL-PHIEUPH",
    "cPIEUP-MIEUMcSSANGPIEUPcPIEUP-SIOS-TIKEUTcPIEUP-CIEUCcPIEUP-CHIEUCHcSIOS-MIEUM",
    "cSIOS-KAPYEOUNPIEUPcSSANGSIOS-KIYEOKcSSANGSIOS-TIKEUTcSIOS-PANSIOScSIOS-CIEUCcSIOS-CHIEUCH",
    "cSIOS-THIEUTHcSIOS-HIEUHcPANSIOS-PIEUPcPANSIOS-KAPYEOUNPIEUPcYESIEUNG-MIEUMcYESIEUNG-HIEUH",
    "cCIEUC-PIEUPcCIEUC-SSANGPIEUPcSSANGCIEUCcPHIEUPH-SIOScPHIEUPH-THIEUTH"]⟩,
  ⟨0xFB00, [
    "aLATIN SMALL LIGATURE FFdFIdFLdFFIdFFLdLONG S TdST"]⟩,
  ⟨0xFB13, [
    "aARMENIAN SMALL LIGATURE MEN NOWeECHeINIdVEW NOWdMEN XEH"]⟩,
  ⟨0xFB1D, [
    "aHEBREW LETTER YOD WITH HIRIQbPOINT JUDEO-SPANISH VARIKAbLIGATURE YIDDISH YOD YOD PATAH",
    "bLETTER ALTERNATIVE AYINcWIDE ALEFdDALETdHEdKAFdLAMEDdFINAL MEMdRESHdTAV",
    "cALTERNATIVE PLUS SIGNcSHIN WITH SHIN DOTeSINneDAGESH AND SHINngSINncALEF WITH PATAHeQAMATS",
    "eMAPIQcBET WITH DAGESHcGIMELocDALETocHE WITH MAPIQcVAV WITH DAGESHcZAYINo_cTETocYODo",
    "cFINAL KAFocpcLAMEDo_cMEMo_cNUNocSAMEKHo_cFINAL PEocp_cTSADIocQOFocRESHocSHINocTAVo",
    "cVAV WITH HOLAMcBET WITH RAFEcKAFocPEobLIGATURE ALEF LAMED",
    "aARABIC LETTER ALEF WASLA ISOLATED FORMeFINALncBEEH ISOLATEDndFINALndINITIALndMEDIALn",
    "cPEH ISOLATEDndFINALndINITIALndMEDIALncBEHEH ISOLATEDndFINALndINITIALndMEDIALn",
    "cTTEHEH ISOLATEDndFINALndINITIALndMEDIALncTEHEH ISOLATEDndFINALndINITIALndMEDIALn",
    "cTTEH ISOLATEDndFINALndINITIALndMEDIALncVEH ISOLATEDndFINALndINITIALndMEDIALn",
    "cPEHEH ISOLATEDndFINALndINITIALndMEDIALncDYEH ISOLATEDndFINALndINITIALndMEDIALn",
    "cNYEH ISOLATEDndFINALndINITIALndMEDIALncTCHEH ISOLATEDndFINALndINITIALndMEDIALn",
    "cTCHEHEH ISOLATEDndFINALndINITIALndMEDIALncDDAHAL ISOLATEDndFINALncDAHAL ISOLATEDndFINALn",
    "cDUL ISOLATEDndFINALncDDAL ISOLATEDndFINALncJEH ISOLATEDndFINALncRREH ISOLATEDndFINALn",
    "cKEHEH ISOLATEDndFINALndINITIALndMEDIALncGAF ISOLATEDndFINALndINITIALndMEDIALn",
    "cGUEH ISOLATEDndFINALndINITIALndMEDIALncNGOEH ISOLATEDndFINALndINITIALndMEDIALn",
    "cNOON GHUNNA ISOLATEDneFINALncRNOON ISOLATEDndFINALndINITIALndMEDIALn",
    "cHEH WITH YEH ABOVE ISOLATEDngFINALndGOAL ISOLATEDneFINALneINITIALneMEDIALn",
    "dDOACHASHMEE ISOLATEDneFINALneINITIALneMEDIALncYEH BARREE ISOLATEDneFINALn",
    "eWITH HAMZA ABOVE ISOLATEDnhFINALnbSYMBOL DOT ABOVEdBELOWcTWO DOTS ABOVEeBELOW",
    "cTHREE DOTS ABOVEeBELOWePOINTING DOWNWARDS ABOVEgBELOWcFOUR DOTS ABOVEeBELOW",
    "cDOUBLE VERTICAL BARncTWO DOTS VERTICALLY ABOVEfBELOWcRINGcSMALL TAH ABOVEeBELOW",
    "cWASLA ABOVE"]⟩,
  ⟨0xFBD3, [
    "aARABIC LETTER NG ISOLATED FORMdFINALndINITIALndMEDIALncU ISOLATEDndFINALncOE ISOLATEDn",
    "dFINALncYU ISOLATEDndFINALncU WITH HAMZA ABOVE ISOLATEDncVEodFINALncKIRGHIZ OE ISOLATEDn",
    "eFINALndYU ISOLATEDneFINALncE ISOLATEDndFINALndINITIALndMEDIALn",
    "cUIGHUR KAZAKH KIRGHIZ ALEF MAKSURA INITIALnhMEDIALn",
    "bLIGATURE YEH WITH HAMZA ABOVE WITH ALEF ISOLATEDniFINALnhAE ISOLATEDniFINALnhWAW ISOLATEDn",
    "iFINALnhU ISOLATEDniFINALnhOE ISOLATEDniFINALnhYU ISOLATEDniFINALnhE ISOLATEDniFINALn",
    "iINITIALncUIGHUR KIRGHIZ YEH WITH HAMZA ABOVE WITH ALEF MAKSURA ISOLATEDnlFINALnlINITIALn",
    "bLETTER FARSI YEH ISOLATEDneFINALneINITIALneMEDIALn",
    "bLIGATURE YEH WITH HAMZA ABOVE WITH JEEM ISOLATEDnhHAHohMEEMohALEF MAKSURAohYEHo",
    "cBEH WITH JEEMoeHAHoeKHAHoeMEEMoeALEF MAKSURAoeYEHocTEH WITH JEEMoeHAHoeKHAHoeMEEMo",
    "eALEF MAKSURAoeYEHocTHEH WITH JEEMoeMEEMoeALEF MAKSURAoeYEHocJEEM WITH HAHoeMEEMo",
    "cHAH WITH JEEMoeMEEMocKHAH WITH JEEMoeHAHoeMEEMocSEEN WITH JEEMoeHAHoeKHAHoeMEEMo",
    "cSAD WITH HAHoeMEEMocDAD WITH JEEMoeHAHoeKHAHoeMEEMocTAH WITH HAHoeMEEMocZAHqcAIN WITH JEEMo",
    "eMEEMocGHAIN WITH JEEMoeMEEMocFEH WITH JEEMoeHAHoeKHAHoeMEEMoeALEF MAKSURAoeYEHo",
    "cQAF WITH HAHoeMEEMoeALEF MAKSURAoeYEHocKAF WITH ALEFoeJEEMoeHAHoeKHAHoeLAMoeMEEMo",
    "eALEF MAKSURAoeYEHocLAM WITH JEEMoeHAHoeKHAHoeMEEMoeALEF MAKSURAoeYEHocMEEM WITH JEEMoeHAHo",
    "eKHAHoeMEEMoeALEF MAKSURAoeYEHocNOON WITH JEEMoeHAHoeKHAHoeMEEMoeALEF MAKSURAoeYEHo",
    "cHEH WITH JEEMoeMEEMoeALEF MAKSURAoeYEHocYEH WITH JEEMoeHAHoeKHAHoeMEEMoeALEF MAKSURAoeYEHo",
    "cTHAL WITH SUPERSCRIPT ALEFocREHrcALEF MAKSURArcSHADDA WITH DAMMATANoeKASRATANoeFATHAo",
    "eDAMMAoeKASRAoeSUPERSCRIPT ALEFocYEH WITH HAMZA ABOVE WITH REH FINALnhZAINohMEEMohNOONo",
    "hALEF MAKSURAohYEHocBEH WITH REHoeZAINoeMEEMoeNOONoeALEF MAKSURAoeYEHocTEH WITH REHoeZAINo",
    "eMEEMoeNOONoeALEF MAKSURAoeYEHocTHEH WITH REHoeZAINoeMEEMoeNOONoeALEF MAKSURAoeYEHo",
    "cFEH WITH ALEF MAKSURAoeYEHocQAF WITH ALEF MAKSURAoeYEHocKAF WITH ALEFoeLAMoeMEEMo",
    "eALEF MAKSURAoeYEHocLAM WITH MEEMoeALEF MAKSURAoeYEHocMEEM WITH ALEFoeMEEMocNOON WITH REHo",
    "eZAINoeMEEMoeNOONoeALEF MAKSURAoeYEHocALEF MAKSURA WITH SUPERSCRIPT ALEFocYEH WITH REHo",
    "eZAINoeMEEMoeNOONoeALEF MAKSURAoeYEHoeHAMZA ABOVE WITH JEEM INITIALnhHAHohKHAHohMEEMohHEHo",
    "cBEH WITH JEEMoeHAHoeKHAHoeMEEMoeHEHocTEH WITH JEEMoeHAHoeKHAHoeMEEMoeHEHocTHEH WITH MEEMo",
    "cJEEM WITH HAHoeMEEMocHAH WITH JEEMoeMEEMocKHAH WITH JEEMoeMEEMocSEEN WITH JEEMoeHAHoeKHAHo",
    "eMEEMocSAD WITH HAHoeKHAHoeMEEMocDAD WITH JEEMoeHAHoeKHAHoeMEEMocTAH WITH HAHo",
    "cZAH WITH MEEMocAIN WITH JEEMoeMEEMocGHAIN WITH JEEMoeMEEMocFEH WITH JEEMoeHAHoeKHAHoeMEEMo",
    "cQAF WITH HAHoeMEEMocKAF WITH JEEMoeHAHoeKHAHoeLAMoeMEEMocLAM WITH JEEMoeHAHoeKHAHoeMEEMo",
    "eHEHocMEEM WITH JEEMoeHAHoeKHAHoeMEEMocNOON WITH JEEMoeHAHoeKHAHoeMEEMoeHEHocHEH WITH JEEMo",
    "eMEEMoeSUPERSCRIPT ALEFocYEH WITH JEEMoeHAHoeKHAHoeMEEMoeHEHoeHAMZA ABOVE WITH MEEM MEDIALn",
    "hHEHocBEH WITH MEEMoeHEHocTEH WITH MEEMoeHEHocTHEH WITH MEEMoeHEHocSEEN WITH MEEMoeHEHo",
    "cSHEEN WITH MEEMoeHEHocKAF WITH LAMoeMEEMocLAMqcNOONqeHEHocYEH WITH MEEMoeHEHo",
    "cSHADDA WITH FATHAoeDAMMAoeKASRAocTAH WITH ALEF MAKSURA ISOLATEDneYEHo",
    "cAIN WITH ALEF MAKSURAoeYEHocGHAIN WITH ALEF MAKSURAoeYEHocSEEN WITH ALEF MAKSURAoeYEHo",
    "cSHEEN WITH ALEF MAKSURAoeYEHocHAH WITH ALEF MAKSURAoeYEHocJEEM WITH ALEF MAKSURAoeYEHo",
    "cKHAH WITH ALEF MAKSURAoeYEHocSAD WITH ALEF MAKSURAoeYEHocDAD WITH ALEF MAKSURAoeYEHo",
    "cSHEEN WITH JEEMoeHAHoeKHAHoeMEEMoeREHocSEENqcSADqcDADqcTAH WITH ALEF MAKSURA FINALneYEHo",
    "cAIN WITH ALEF MAKSURAoeYEHocGHAIN WITH ALEF MAKSURAoeYEHocSEEN WITH ALEF MAKSURAoeYEHo",
    "cSHEEN WITH ALEF MAKSURAoeYEHocHAH WITH ALEF MAKSURAoeYEHocJEEM WITH ALEF MAKSURAoeYEHo",
    "cKHAH WITH ALEF MAKSURAoeYEHocSAD WITH ALEF MAKSURAoeYEHocDAD WITH ALEF MAKSURAoeYEHo",
    "cSHEEN WITH JEEMoeHAHoeKHAHoeMEEMoeREHocSEENqcSADqcDADqcSHEEN WITH JEEM INITIALneHAHoeKHAHo",
    "eMEEMocSEEN WITH HEHocSHEENqcTAH WITH MEEMocSEEN WITH JEEM MEDIALneHAHoeKHAHo",
    "cSHEEN WITH JEEMoeHAHoeKHAHocTAH WITH MEEMocZAHqcALEF WITH FATHATAN FINALnfISOLATEDn",
    "aORNATE LEFT PARENTHESISbRIGHTnaARABIC LIGATURE RAHIMAHU ALLAAHcRADI ALLAAHU ANHeANHAAeANHUM",
    "eANHUMAAeANHUNNAcSALLALLAAHU ALAYHI WA-AALIHcALAYHI AS-SALAAMcALAYHIMncALAYHIMAAn",
    "cALAYHI AS-SALAATU WAS-SALAAMcQUDDISA SIRRAHcSALLALLAHU ALAYHI WAAALIHEE WA-SALLAM",
    "cALAYHAA AS-SALAAMcTABAARAKA WA-TAAALAAcRAHIMAHUM ALLAAH",
    "cTEH WITH JEEM WITH MEEM INITIAL FORMeHAH WITH JEEM FINALnhINITIALngMEEMoeKHAHq",
    "eMEEM WITH JEEMogHAHogKHAHocJEEM WITH MEEM WITH HAH FINALnhINITIALn",
    "cHAH WITH MEEM WITH YEH FINALngALEF MAKSURAocSEEN WITH HAH WITH JEEM INITIALneJEEM WITH HAHo",
    "gALEF MAKSURA FINALneMEEM WITH HAHohINITIALngJEEMogMEEM FINALnhINITIALn",
    "cSAD WITH HAH WITH HAH FINALnhINITIALneMEEM WITH MEEM FINALncSHEEN WITH HAHqhINITIALn",
    "eJEEM WITH YEH FINALneMEEM WITH KHAHohINITIALngMEEM FINALnhINITIALn",
    "cDAD WITH HAH WITH ALEF MAKSURA FINALneKHAH WITH MEEMohINITIALn",
    "cTAH WITH MEEM WITH HAH FINALnhINITIALngMEEMogYEH FINALncAIN WITH JEEM WITH MEEMoeMEEMq",
    "hINITIALngALEF MAKSURA FINALncGHAIN WITH MEEM WITH MEEMogYEHogALEF MAKSURAo",
    "cFEH WITH KHAH WITH MEEMohINITIALncQAF WITH MEEM WITH HAH FINALngMEEMocLAM WITH HAHqgYEHo",
    "gALEF MAKSURAoeJEEM WITH JEEM INITIALnhFINALneKHAH WITH MEEMohINITIALneMEEM WITH HAH FINALn",
    "hINITIALncMEEM WITH HAH WITH JEEMogMEEMogYEH FINALneJEEM WITH HAH INITIALngMEEMo",
    "eKHAH WITH JEEMogMEEMo__eJEEM WITH KHAHocHEH WITH MEEM WITH JEEMogMEEMocNOON WITH HAHq",
    "gALEF MAKSURA FINALneJEEM WITH MEEMohINITIALngALEF MAKSURA FINALneMEEM WITH YEHo",
    "gALEF MAKSURAocYEH WITH MEEM WITH MEEMohINITIALncBEH WITH KHAH WITH YEH FINALn",
    "cTEH WITH JEEMqgALEF MAKSURAoeKHAH WITH YEHogALEF MAKSURAoeMEEM WITH YEHogALEF MAKSURAo",
    "cJEEM WITH MEEM WITH YEHoeHAH WITH ALEF MAKSURAoeMEEMrcSEEN WITH KHAHr",
    "cSAD WITH HAH WITH YEHocSHEENscDADscLAM WITH JEEMqeMEEMqcYEH WITH HAHqeJEEMqeMEEMqcMEEMs",
    "cQAFscNOON WITH HAHqcQAF WITH MEEM WITH HAH INITIALncLAM WITH HAH WITH MEEMo",
    "cAIN WITH MEEM WITH YEH FINALncKAFscNOON WITH JEEM WITH HAH INITIALn",
    "cMEEM WITH KHAH WITH YEH FINALncLAM WITH JEEM WITH MEEM INITIALn",
    "cKAF WITH MEEM WITH MEEM FINALncLAM WITH JEEMqcNOON WITH JEEM WITH HAHo",
    "cJEEM WITH HAH WITH YEHocHAH WITH JEEMqcMEEMscFEH WITH MEEMqcBEH WITH HAHq",
    "cKAF WITH MEEM WITH MEEM INITIALncAIN WITH JEEMqcSAD WITH MEEMq",
    "cSEEN WITH KHAH WITH YEH FINALncNOON WITH JEEMq"]⟩,
  ⟨0xFDCF, [
    "aARABIC LIGATURE SALAAMUHU ALAYNAA"]⟩,
  ⟨0xFDF0, [
    "aARABIC LIGATURE SALLA USED AS KORANIC STOP SIGN ISOLATED FORMcQALAtcALLAHocAKBARocMOHAMMADo",
    "cSALAMocRASOULocALAYHEocWASALLAMocSALLAocSALLALLAHOU ALAYHE WASALLAMcJALLAJALALOUHOU",
    "aRIAL SIGNaARABIC LIGATURE BISMILLAH AR-RAHMAN AR-RAHEEMcSUBHAANAHU WA TAAALAAcAZZA WA JALL",
    "aVARIATION SELECTOR-1+++++++++++++++aPRESENTATION FORM FOR VERTICAL COMMAeIDEOGRAPHICn",
    "fFULL STOPeCOLONeSEMICOLONeEXCLAMATION MARKeQUESTIONneLEFT WHITE LENTICULAR BRACKET",
    "eRIGHT WHITE LENTICULAR BRAKCETeHORIZONTAL ELLIPSIS"]⟩,
  ⟨0xFE20, [
    "aCOMBINING LIGATURE LEFT HALFcRIGHTnbDOUBLE TILDE LEFTndRIGHTnbMACRON LEFTncRIGHTn",
    "bCONJOINING MACRONbLIGATURE LEFT HALF BELOWcRIGHTobTILDE LEFTocRIGHTobMACRON LEFTocRIGHTo",
    "bCONJOINING MACRONnbCYRILLIC TITLO LEFT HALFdRIGHTn",
    "aPRESENTATION FORM FOR VERTICAL TWO DOT LEADEReEM DASHeENneLOW LINEeWAVYoeLEFT PARENTHESIS",
    "eRIGHTneLEFT CURLY BRACKETeRIGHToeLEFT TORTOISE SHELLneRIGHTpeLEFT BLACK LENTICULARneRIGHTp",
    "eLEFT DOUBLE ANGLEneRIGHTpeLEFToeRIGHToeLEFT CORNERneRIGHToeLEFT WHITEoeRIGHTpaSESAME DOT",
    "aWHITEoaPRESENTATION FORM FOR VERTICAL LEFT SQUARE BRACKETeRIGHToaDASHED OVERLINE",
    "aCENTRELINEnaWAVYnaDOUBLEoaDASHED LOW LINEaCENTRELINEoaWAVYoaSMALL COMMAbIDEOGRAPHICn",
    "bFULL STOP_bSEMICOLONbCOLONbQUESTION MARKbEXCLAMATIONnbEM DASHbLEFT PARENTHESISbRIGHTn",
    "bLEFT CURLY BRACKETbRIGHTobLEFT TORTOISE SHELLnbRIGHTpbNUMBER SIGNbAMPERSANDbASTERISK",
    "bPLUS SIGNbHYPHEN-MINUSbLESS-THAN SIGNbGREATER-THANnbEQUALSn_bREVERSE SOLIDUSbDOLLAR SIGN",
    "bPERCENTnbCOMMERCIAL AT"]⟩,
  ⟨0xFE70, [
    "aARABIC FATHATAN ISOLATED FORMbTATWEEL WITH FATHATAN ABOVEbDAMMATAN ISOLATED FORM",
    "bTAIL FRAGMENTbKASRATAN ISOLATED FORM_bFATHAocMEDIALnbDAMMA ISOLATEDncMEDIALn",
    "bKASRA ISOLATEDncMEDIALnbSHADDA ISOLATEDncMEDIALnbSUKUN ISOLATEDncMEDIALn",
    "bLETTER HAMZA ISOLATEDncALEF WITH MADDA ABOVEogFINALneHAMZA ABOVE ISOLATEDngFINALn",
    "cWAW WITH HAMZA ABOVE ISOLATEDngFINALncALEF WITH HAMZA BELOW ISOLATEDngFINALn",
    "cYEH WITH HAMZA ABOVE ISOLATEDngFINALngINITIALngMEDIALncALEF ISOLATEDndFINALncBEH ISOLATEDn",
    "dFINALndINITIALndMEDIALncTEH MARBUTA ISOLATEDneFINALndISOLATEDndFINALndINITIALndMEDIALn",
    "cTHEH ISOLATEDndFINALndINITIALndMEDIALncJEEM ISOLATEDndFINALndINITIALndMEDIALncHAH ISOLATEDn",
    "dFINALndINITIALndMEDIALncKHAH ISOLATEDndFINALndINITIALndMEDIALncDAL ISOLATEDndFINALn",
    "cTHAL ISOLATEDndFINALncREH ISOLATEDndFINALncZAIN ISOLATEDndFINALncSEEN ISOLATEDndFINALn",
    "dINITIALndMEDIALncSHEEN ISOLATEDndFINALndINITIALndMEDIALncSAD ISOLATEDndFINALndINITIALn",
    "dMEDIALncDAD ISOLATEDndFINALndINITIALndMEDIALncTAH ISOLATEDndFINALndINITIALndMEDIALn",
    "cZAH ISOLATEDndFINALndINITIALndMEDIALncAIN ISOLATEDndFINALndINITIALndMEDIALncGHAIN ISOLATEDn",
    "dFINALndINITIALndMEDIALncFEH ISOLATEDndFINALndINITIALndMEDIALncQAF ISOLATEDndFINALndINITIALn",
    "dMEDIALncKAF ISOLATEDndFINALndINITIALndMEDIALncLAM ISOLATEDndFINALndINITIALndMEDIALn",
    "cMEEM ISOLATEDndFINALndINITIALndMEDIALncNOON ISOLATEDndFINALndINITIALndMEDIALncHEH ISOLATEDn",
    "dFINALndINITIALndMEDIALncWAW ISOLATEDndFINALncALEF MAKSURA ISOLATEDneFINALncYEH ISOLATEDn",
    "dFINALndINITIALndMEDIALnbLIGATURE LAM WITH ALEF WITH MADDA ABOVE ISOLATEDniFINALn",
    "gHAMZA ABOVE ISOLATEDniFINALnhBELOW ISOLATEDniFINALnfISOLATEDnfFINALn__",
    "aZERO WIDTH NO-BREAK SPACE_aFULLWIDTH EXCLAMATION MARKbQUOTATIONnbNUMBER SIGNbDOLLARn",
    "bPERCENTnbAMPERSANDbAPOSTROPHEbLEFT PARENTHESISbRIGHTnbASTERISKbPLUS SIGNbCOMMAbHYPHEN-MINUS",
    "bFULL STOPbSOLIDUSbDIGIT ZEROcONEcTWOcTHREEcFOURcFIVEcSIXcSEVENcEIGHTcNINEbCOLONbSEMICOLON",
    "bLESS-THAN SIGNbEQUALSnbGREATER-THANnbQUESTION MARKbCOMMERCIAL ATbLATIN CAPITAL LETTER AeBeC",
    "eDeEeFeGeHeIeJeKeLeMeNeOePeQeReSeTeUeVeWeXeYeZbLEFT SQUARE BRACKETbREVERSE SOLIDUS",
    "bRIGHT SQUARE BRACKETbCIRCUMFLEX ACCENTbLOW LINEbGRAVE ACCENTbLATIN SMALL LETTER AeBeCeDeEeF",
    "eGeHeIeJeKeLeMeNeOePeQeReSeTeUeVeWeXeYeZbLEFT CURLY BRACKETbVERTICAL LINE",
    "bRIGHT CURLY BRACKETbTILDEbLEFT WHITE PARENTHESISbRIGHToaHALFWIDTH IDEOGRAPHIC FULL STOP",
    "bLEFT CORNER BRACKETbRIGHTobIDEOGRAPHIC COMMAbKATAKANA MIDDLE DOTcLETTER WOdSMALL AeIeUeEeO",
    "eYAeYUeYOeTUbKATAKANA-HIRAGANA PROLONGED SOUND MARKbKATAKANA LETTER AdIdUdEdOdKAdKIdKUdKEdKO",
    "dSAdSIdSUdSEdSOdTAdTIdTUdTEdTOdNAdNIdNUdNEdNOdHAdHIdHUdHEdHOdMAdMIdMUdMEdMOdYAdYUdYOdRAdRI",
    "dRUdREdROdWAdNcVOICED SOUND MARKcSEMI-VOICEDobHANGUL FILLERcLETTER KIYEOKdSSANGKIYEOK",
    "dKIYEOK-SIOSdNIEUNdNIEUN-CIEUCdNIEUN-HIEUHdTIKEUTdSSANGTIKEUTdRIEULdRIEUL-KIYEOKdRIEUL-MIEUM",
    "dRIEUL-PIEUPdRIEUL-SIOSdRIEUL-THIEUTHdRIEUL-PHIEUPHdRIEUL-HIEUHdMIEUMdPIEUPdSSANGPIEUP",
    "dPIEUP-SIOSdSIOSdSSANGSIOSdIEUNGdCIEUCdSSANGCIEUCdCHIEUCHdKHIEUKHdTHIEUTHdPHIEUPHdHIEUH___dA",
    "dAEdYAdYAEdEOdE__dYEOdYEdOdWAdWAEdOE__dYOdUdWEOdWEdWIdYU__dEUdYIdI___aFULLWIDTH CENT SIGN",
    "bPOUNDnbNOTnbMACRONbBROKEN BARbYEN SIGNbWONn_aHALFWIDTH FORMS LIGHT VERTICALbLEFTWARDS ARROW",
    "bUPWARDSnbRIGHTWARDSnbDOWNWARDSnbBLACK SQUAREbWHITE CIRCLE"]⟩,
  ⟨0xFFF9, [
    "aINTERLINEAR ANNOTATION ANCHORcSEPARATORcTERMINATORaOBJECT REPLACEMENT CHARACTERao__",
    "aLINEAR B SYLLABLE B008 AdB038 EdB028 IdB061 OdB010 UdB001 DAdB045 DEdB007 DIdB014 DO",
    "dB051 DUdB057 JAdB046 JE_dB036 JOdB065 JUdB077 KAdB044 KEdB067 KIdB070 KOdB081 KUdB080 MA",
    "dB013 MEdB073 MIdB015 MOdB023 MUdB006 NAdB024 NEdB030 NIdB052 NOdB055 NUdB003 PAdB072 PE",
    "dB039 PIdB011 POdB050 PUdB016 QAdB078 QEdB021 QIdB032 QO_dB060 RAdB027 REdB053 RIdB002 RO",
    "dB026 RUdB031 SAdB009 SEdB041 SIdB012 SOdB058 SUdB059 TAdB004 TEdB037 TIdB005 TOdB069 TU",
    "dB054 WAdB075 WEdB040 WIdB042 WO_dB017 ZAdB074 ZE_dB020 ZOdB025 A2dB043 A3dB085 AUdB071 DWE",
    "dB090 DWOdB048 NWAdB029 PU2dB062 PTEdB076 RA2dB033 RA3dB068 RO2dB066 TA2dB087 TWEdB091 TWO__",
    "cSYMBOL B018+dB022dB034dB047dB049dB056dB063+dB079dB082+dB086dB089"]⟩]

end FormDialogue.Unicode
